import Mathlib.Data.List.Forall2
import TemplateServer.Proofs.Dict
import TemplateServer.Proofs.Text.Percent
import TemplateServer.Proofs.Text.Pieces
import TemplateServer.RenderContext

/-!
# Parameters are read as they were entered

A form can write its pairs in many ways: a character is kept or escaped, a space is also written as
`+`, and empty pieces may stand anywhere among the pairs. `Lists` relates a list of pairs to the
query strings that it can be sent as. Reading the parameters leads from any of them to the pairs,
grouped by name (`params_of_lists`).

The delimiters are looked for before anything is decoded. That is right because no delimiter is ever
kept (`Entered.ampersand_not_mem`, `Entered.equals_not_mem`) and none is an octet of another
character (`Utf8.mem_of_mem_encode`).
-/

namespace TemplateServer

/-! ## Octets of delimiters -/

/-- An octet below `0x80` is written for its own character only. -/
theorem Utf8.mem_of_mem_encode {cs : List Char} {b : UInt8} (hb : b ∈ encode cs)
    (hascii : b.toNat ≤ 0x7F) : Char.ofNat b.toNat ∈ cs := by
  obtain ⟨c, hc, hbyte⟩ := List.mem_flatMap.mp hb
  rw [← eq_of_mem_encodeChar hbyte hascii]
  exact hc

namespace Text

/-- What is joined at an ampersand is octets joined at the octet of the ampersand. -/
theorem encode_joinWith_ampersand (ps : List (List Char)) :
    Utf8.encode (joinWith '&' ps) = joinWith 0x26 (ps.map Utf8.encode) := by
  induction ps with
  | nil => rfl
  | cons p ps ih =>
    cases ps with
    | nil => rfl
    | cons q ps =>
      rw [joinWith_cons_cons, Utf8.encode_append, Utf8.encode_cons, ih]
      rfl

/-- A list is cut at the delimiter that is put after a part without delimiters. -/
theorem cut_append_cons {α : Type} {isDelim : α → Bool} {xs : List α} {d : α}
    (h : ∀ x ∈ xs, isDelim x = false) (hd : isDelim d = true) (ys : List α) :
    cut isDelim (xs ++ d :: ys) = (xs, some ys) := by
  induction xs with
  | nil => simp [cut, hd]
  | cons x xs ih =>
    have hx := h x List.mem_cons_self
    have hrest := ih fun y hy => h y (List.mem_cons_of_mem _ hy)
    simp [cut, hx, hrest]

/-! ## Components -/

/-- The characters that cannot be kept: the three signs of a form, and the sign of an escape. -/
def isReserved (c : Char) : Bool := c = '%' || c = '&' || c = '=' || c = '+'

/-- The ways of entering a text in a form. -/
inductive Entered : List Char → List Char → Prop
  | nil : Entered [] []
  | space {cs entered : List Char} (hrest : Entered cs entered) :
      Entered (' ' :: cs) ('+' :: entered)
  | kept {c : Char} {cs entered : List Char} (hc : isReserved c = false)
      (hrest : Entered cs entered) : Entered (c :: cs) (c :: entered)
  | escaped {c : Char} {cs escape entered : List Char}
      (hescape : Escapes (String.utf8EncodeChar c) escape) (hrest : Entered cs entered) :
      Entered (c :: cs) (escape ++ entered)

/-- The character that a plus sign stands for is a space. -/
def unplus (c : Char) : Char := if c = '+' then ' ' else c

/-- The octets of a plus sign are exchanged as the sign is. -/
theorem map_unplus_encodeChar (c : Char) :
    ((String.utf8EncodeChar c).map fun b => if b = 0x2B then 0x20 else b) =
      String.utf8EncodeChar (unplus c) := by
  unfold unplus
  by_cases hplus : c = '+'
  · subst hplus
    rfl
  · rw [if_neg hplus]
    refine (List.map_congr_left fun b hb => ?_).trans (List.map_id' _)
    refine if_neg fun hb' => ?_
    subst hb'
    exact hplus (Utf8.eq_of_mem_encodeChar hb (by decide))

theorem map_unplus_encode (cs : List Char) :
    ((Utf8.encode cs).map fun b => if b = 0x2B then 0x20 else b) =
      Utf8.encode (cs.map unplus) := by
  induction cs with
  | nil => rfl
  | cons c cs ih =>
    rw [Utf8.encode_cons, List.map_append, map_unplus_encodeChar, ih, List.map_cons,
      Utf8.encode_cons]

theorem map_unplus_of_not_mem {cs : List Char} (h : '+' ∉ cs) : cs.map unplus = cs := by
  refine (List.map_congr_left fun c hc => ?_).trans (List.map_id' _)
  refine if_neg ?_
  rintro rfl
  exact h hc

namespace Entered

variable {cs entered : List Char}

/-- Once its plus signs are read as spaces, an entered text is a spelling of the text. -/
theorem spells (h : Entered cs entered) :
    Spells (fun c => c != '%') cs (entered.map unplus) := by
  induction h with
  | nil => exact .nil
  | space _ ih => exact .kept (by rfl) ih
  | @kept c cs entered hc _ ih =>
    have hkept : (c != '%') = true := by
      rw [bne_iff_ne]
      rintro rfl
      cases hc
    have hplus : unplus c = c := by
      refine if_neg ?_
      rintro rfl
      cases hc
    rw [List.map_cons, hplus]
    exact .kept hkept ih
  | escaped hescape _ ih =>
    rw [List.map_append, map_unplus_of_not_mem (hescape.not_mem (by decide) (by decide))]
    exact .escaped hescape ih

/-- An entered text is decoded to the text. -/
theorem decodeComponent (h : Entered cs entered) :
    Text.decodeComponent (Utf8.encode entered) = cs := by
  unfold Text.decodeComponent
  rw [map_unplus_encode, h.spells.decodePercent (by rfl)]
  exact Utf8.decodeLossy_of_decode? (Utf8.decode?_eq_some_iff.mpr rfl)

/-- A reserved character that is neither of the signs that mean something within a component stands
in no entered text. -/
theorem not_mem {c : Char} (h : Entered cs entered) (hc : isReserved c = true) (hpercent : c ≠ '%')
    (hplus : c ≠ '+') (hdigit : c ∉ upperDigits ++ lowerDigits) : c ∉ entered := by
  induction h with
  | nil => exact List.not_mem_nil
  | space _ ih => exact List.not_mem_cons_of_ne_of_not_mem hplus ih
  | @kept x cs entered hx _ ih =>
    refine List.not_mem_cons_of_ne_of_not_mem ?_ ih
    rintro rfl
    rw [hc] at hx
    cases hx
  | escaped hescape _ ih =>
    rw [List.mem_append, not_or]
    exact ⟨hescape.not_mem hpercent hdigit, ih⟩

theorem ampersand_not_mem (h : Entered cs entered) : '&' ∉ entered :=
  h.not_mem (by rfl) (by decide) (by decide) (by decide)

theorem equals_not_mem (h : Entered cs entered) : '=' ∉ entered :=
  h.not_mem (by rfl) (by decide) (by decide) (by decide)

/-- Every text can be entered, with everything escaped. -/
theorem escapeAll (cs : List Char) : Entered cs (Text.escapeAll cs) := by
  induction cs with
  | nil => exact .nil
  | cons c cs ih =>
    unfold Text.escapeAll
    rw [Utf8.encode_cons, List.flatMap_append]
    exact .escaped (escapes_flatMap _) ih

end Entered

/-! ## Pairs -/

/-- The ways of entering a name with its value. -/
def EntersPair (pair : String × String) (piece : List Char) : Prop :=
  ∃ name value, Entered pair.1.toList name ∧ Entered pair.2.toList value ∧
    piece = name ++ '=' :: value

namespace EntersPair

variable {pair : String × String} {piece : List Char}

theorem ampersand_not_mem (h : EntersPair pair piece) : '&' ∉ piece := by
  obtain ⟨name, value, hname, hvalue, rfl⟩ := h
  rw [List.mem_append, List.mem_cons, not_or, not_or]
  exact ⟨hname.ampersand_not_mem, by decide, hvalue.ampersand_not_mem⟩

/-- An entered pair is read as the pair. -/
theorem formPair (h : EntersPair pair piece) :
    Text.formPair (Utf8.encode piece) = (pair.1.toList, pair.2.toList) := by
  obtain ⟨name, value, hname, hvalue, rfl⟩ := h
  have hcut : cut (· == 0x3D) (Utf8.encode (name ++ '=' :: value)) =
      (Utf8.encode name, some (Utf8.encode value)) := by
    rw [Utf8.encode_append, Utf8.encode_cons]
    refine cut_append_cons (fun b hb => ?_) (by rfl) (Utf8.encode value)
    rw [beq_eq_false_iff_ne]
    rintro rfl
    exact hname.equals_not_mem (Utf8.mem_of_mem_encode hb (by decide))
  unfold Text.formPair
  rw [hcut]
  exact congrArg₂ Prod.mk hname.decodeComponent hvalue.decodeComponent

end EntersPair

/-- Pairs that were entered one by one are read one by one. -/
theorem map_formPair {pairs : List (String × String)} {ps : List (List Char)}
    (h : List.Forall₂ EntersPair pairs ps) :
    (ps.map fun p => formPair (Utf8.encode p)) = pairs.map fun p => (p.1.toList, p.2.toList) := by
  induction h with
  | nil => rfl
  | cons hpair _ ih => rw [List.map_cons, List.map_cons, hpair.formPair, ih]

theorem ampersand_not_mem_of_entersPair {pairs : List (String × String)} {ps : List (List Char)}
    (h : List.Forall₂ EntersPair pairs ps) : ∀ p ∈ ps, '&' ∉ p := by
  induction h with
  | nil => simp
  | cons hpair _ ih => exact List.forall_mem_cons.mpr ⟨hpair.ampersand_not_mem, ih⟩

/-- The pieces of a joined query string are read one by one, without the empty ones. -/
theorem formPairs_joinWith {ps : List (List Char)} (h : ∀ p ∈ ps, '&' ∉ p) :
    formPairs (Utf8.encode (joinWith '&' ps)) =
      (ps.filter fun p => !p.isEmpty).map fun p => formPair (Utf8.encode p) := by
  unfold formPairs
  by_cases hne : ps = []
  · subst hne
    rfl
  · have hpieces : pieces (· == 0x26) (joinWith 0x26 (ps.map Utf8.encode)) =
        ps.map Utf8.encode := by
      refine pieces_joinWith (by simpa using hne) (by rfl) fun q hq b hb => ?_
      obtain ⟨p, hp, rfl⟩ := List.mem_map.mp hq
      rw [beq_eq_false_iff_ne]
      rintro rfl
      exact h p hp (Utf8.mem_of_mem_encode hb (by decide))
    have hempty (p : List Char) : (Utf8.encode p).isEmpty = p.isEmpty := by
      cases p with
      | nil => rfl
      | cons c cs =>
        obtain ⟨b, bs, hb⟩ := List.exists_cons_of_ne_nil (String.utf8EncodeChar_ne_nil)
        rw [Utf8.encode_cons, hb]
        rfl
    rw [encode_joinWith_ampersand, hpieces, List.filter_map, List.map_map]
    simp only [Function.comp_def, hempty]

end Text

/-! ## Query strings -/

/-- The ways of sending pairs as a query string: entered between ampersands, in order, and with
empty pieces anywhere. -/
def Lists (pairs : List (String × String)) (query : String) : Prop :=
  ∃ pieces, query.toList = Text.joinWith '&' pieces ∧
    List.Forall₂ Text.EntersPair pairs (pieces.filter fun piece => !piece.isEmpty)

namespace Lists

variable {pairs : List (String × String)} {query : String}

/-- The pairs of a query string are read in order. -/
theorem formPairs (h : Lists pairs query) :
    Text.formPairs query.toUTF8.toList = pairs.map fun p => (p.1.toList, p.2.toList) := by
  obtain ⟨pieces, hquery, hpieces⟩ := h
  have hampersand : ∀ piece ∈ pieces, '&' ∉ piece := by
    intro piece hpiece
    by_cases hempty : piece = []
    · rw [hempty]
      exact List.not_mem_nil
    · exact Text.ampersand_not_mem_of_entersPair hpieces piece
        (List.mem_filter.mpr ⟨hpiece, by simpa using hempty⟩)
  rw [Utf8.toList_toUTF8, hquery, Text.formPairs_joinWith hampersand, Text.map_formPair hpieces]

theorem params {r : Request} (h : Lists pairs query) (hquery : r.query = some query) :
    r.params = .group pairs := by
  unfold Request.params
  rw [hquery]
  dsimp only
  rw [h.formPairs, List.map_map]
  simp only [Function.comp_def, String.ofList_toList, Prod.mk.eta, List.map_id']

/-- Every list of pairs can be sent. -/
theorem exists_query (pairs : List (String × String)) : ∃ query, Lists pairs query := by
  let pieces := pairs.map fun p =>
    Text.escapeAll p.1.toList ++ '=' :: Text.escapeAll p.2.toList
  have hne : (pieces.filter fun piece => !piece.isEmpty) = pieces := by
    refine List.filter_eq_self.mpr fun piece hpiece => ?_
    obtain ⟨p, -, rfl⟩ := List.mem_map.mp hpiece
    simp
  refine ⟨String.ofList (Text.joinWith '&' pieces), pieces, String.toList_ofList, ?_⟩
  rw [hne, List.forall₂_map_right_iff, List.forall₂_same]
  exact fun p _ => ⟨_, _, .escapeAll _, .escapeAll _, rfl⟩

end Lists

/-- **Parameters are read as they were entered.** Every list of pairs can be sent as a query string.
From every query string that lists the pairs, however they were entered, the parameters have exactly
their names, once each and in order, and under a name are all its values in the order of the pairs.
This is also what a template sees. -/
theorem params_of_lists (pairs : List (String × String)) :
    (∃ query, Lists pairs query) ∧
    ∀ query, Lists pairs query → ∀ r : Request, r.query = some query →
      r.params.Ordered ∧
      (∀ name, name ∈ r.params.keys ↔ name ∈ pairs.map (·.1)) ∧
      (∀ name ∈ pairs.map (·.1), r.params.find? name = some (Dict.valuesOf name pairs)) ∧
      ∀ identity error, (RenderContext.ofRequest identity r error).params = r.params := by
  refine ⟨Lists.exists_query pairs, fun query h r hquery => ?_⟩
  rw [h.params hquery]
  refine ⟨Dict.ordered_group pairs, fun name => Dict.mem_keys_group, fun name hname => ?_, ?_⟩
  · rw [Dict.find?_group, if_pos hname]
  · exact fun _ _ => h.params hquery

/-- A name comes twice with others between, a value holds delimiters, and one pair is empty. -/
theorem params_of_lists_repeated :
    let pairs := [("a", "&="), ("", ""), ("b c", "é +"), ("a", "x")]
    let r := Request.get "/?a=%26%3d&&=&b+c=%c3%A9%20%2B&a=x&"
    Lists pairs "a=%26%3d&&=&b+c=%c3%A9%20%2B&a=x&" ∧
      r.params.find? "a" = some ["&=", "x"] ∧ r.params.find? "" = some [""] ∧
      r.params.find? "b c" = some ["é +"] := by
  intro pairs r
  have hname : Text.Entered "b c".toList "b+c".toList :=
    .kept (by rfl) (.space (.kept (by rfl) .nil))
  have hescape (b : UInt8) (high low : Char) (hhigh : Text.IsDigit (b.toNat / 16) high)
      (hlow : Text.IsDigit (b.toNat % 16) low) : Text.Escapes [b] ['%', high, low] :=
    .cons hhigh hlow .nil
  have hamp := hescape 0x26 '2' '6' (by decide) (by decide)
  have hequals := hescape 0x3D '3' 'd' (by decide) (by decide)
  have hacute : Text.Escapes [0xC3, 0xA9] "%c3%A9".toList :=
    .cons (by decide) (by decide) (hescape 0xA9 'A' '9' (by decide) (by decide))
  have hspace := hescape 0x20 '2' '0' (by decide) (by decide)
  have hsign := hescape 0x2B '2' 'B' (by decide) (by decide)
  have hand : Text.Entered "&=".toList "%26%3d".toList :=
    .escaped (c := '&') hamp (.escaped (c := '=') hequals .nil)
  have ha : Text.Entered "a".toList "a".toList := .kept (by rfl) .nil
  have hx : Text.Entered "x".toList "x".toList := .kept (by rfl) .nil
  have hplus : Text.Entered "é +".toList "%c3%A9%20%2B".toList :=
    .escaped (c := 'é') hacute (.escaped (c := ' ') hspace (.escaped (c := '+') hsign .nil))
  have hlists : Lists pairs "a=%26%3d&&=&b+c=%c3%A9%20%2B&a=x&" := by
    refine ⟨["a=%26%3d".toList, [], "=".toList, "b+c=%c3%A9%20%2B".toList, "a=x".toList, []],
      by rfl, ?_⟩
    exact .cons ⟨_, _, ha, hand, rfl⟩ (.cons ⟨_, _, .nil, .nil, rfl⟩
      (.cons ⟨_, _, hname, hplus, rfl⟩ (.cons ⟨_, _, ha, hx, rfl⟩ .nil)))
  obtain ⟨-, -, hvalues, -⟩ := (params_of_lists pairs).2 _ hlists r (by rfl)
  exact ⟨hlists, hvalues "a" (by simp [pairs]), hvalues "" (by simp [pairs]),
    hvalues "b c" (by simp [pairs])⟩

end TemplateServer
