import TemplateServer.Proofs.Dict
import TemplateServer.Proofs.Text.Letters
import TemplateServer.RenderContext

/-!
# Templates see the last value of every name

A request is built by details, one after the other (`Request.tellAll`). Its attributes are a
dictionary from the start, its headers a list in the order of their arrival. Only for a template the
headers become a dictionary, under names in small letters. So a header can take the place of another
one that is spelled differently, and which of them a template sees is decided by their order alone.

`context_of_details` says that a template sees the last one of the same name, for attributes as for
headers. From a list of headers a dictionary keeps neither the spelling of the names
(`lowered_eq_iff`) nor the order of different names (`Dict.ofPairs_swap`); that is why the context
does not depend on them.
-/

namespace TemplateServer

/-! ## Details of a request -/

namespace Request

/-- What a request can be told while it is built. -/
inductive Detail
  | withQuery (query : String)
  | withMethod (method : String)
  | withPathInfo (servletPath info : String)
  | withAttribute (name value : String)
  | withHeader (name value : String)
deriving DecidableEq, Repr

/-- Adds one detail to a request. -/
def tell (r : Request) : Detail → Request
  | .withQuery query => r.withQuery query
  | .withMethod method => r.withMethod method
  | .withPathInfo servletPath info => r.withPathInfo servletPath info
  | .withAttribute name value => r.withAttribute name value
  | .withHeader name value => r.withHeader name value

/-- Tells a request all details, one after the other. -/
def tellAll (r : Request) (details : List Detail) : Request := details.foldl tell r

/-- The attribute that a detail gives. -/
def Detail.attribute? : Detail → Option (String × String)
  | .withAttribute name value => some (name, value)
  | _ => none

/-- The header that a detail gives. -/
def Detail.header? : Detail → Option (String × String)
  | .withHeader name value => some (name, value)
  | _ => none

/-- The attributes among the details, in order. -/
def attributesOf (details : List Detail) : List (String × String) :=
  details.filterMap Detail.attribute?

/-- The headers among the details, in order. -/
def headersOf (details : List Detail) : List (String × String) :=
  details.filterMap Detail.header?

variable {r : Request}

/-- An attribute is inserted, and no other detail changes the attributes. -/
theorem tell_attributes (detail : Detail) :
    (r.tell detail).attributes =
      detail.attribute?.toList.foldl (fun d p => d.insert p.1 p.2) r.attributes := by
  cases detail <;> rfl

/-- A header is put last, and no other detail changes the headers. -/
theorem tell_headers (detail : Detail) :
    (r.tell detail).headers = r.headers ++ detail.header?.toList := by
  cases detail with
  | withHeader name value => rfl
  | withQuery | withMethod | withPathInfo | withAttribute => exact (List.append_nil _).symm

/-- Attributes are inserted in the order in which they are told. -/
theorem tellAll_attributes (details : List Detail) :
    (r.tellAll details).attributes =
      (attributesOf details).foldl (fun d p => d.insert p.1 p.2) r.attributes := by
  unfold tellAll attributesOf
  rw [List.filterMap_eq_flatMap_toList]
  induction details generalizing r with
  | nil => rfl
  | cons detail details ih =>
    rw [List.foldl_cons, ih, tell_attributes, List.flatMap_cons, List.foldl_append]

/-- Headers are added in the order in which they are told. -/
theorem tellAll_headers (details : List Detail) :
    (r.tellAll details).headers = r.headers ++ headersOf details := by
  unfold tellAll headersOf
  rw [List.filterMap_eq_flatMap_toList]
  induction details generalizing r with
  | nil => exact (List.append_nil _).symm
  | cons detail details ih =>
    rw [List.foldl_cons, ih, tell_headers, List.flatMap_cons, List.append_assoc]

end Request

/-! ## Headers by name -/

/-- The same header, up to the case of its name. -/
def SameHeader (h h' : String × String) : Prop := Text.SameName h.1 h'.1 ∧ h.2 = h'.2

/-- A header under its name in small letters. -/
def lowered (h : String × String) : String × String := (h.1.map Char.toLower, h.2)

/-- Headers with the same lowered name and the same value are the same header. -/
theorem lowered_eq_iff {h h' : String × String} : lowered h = lowered h' ↔ SameHeader h h' := by
  unfold lowered SameHeader
  rw [Prod.mk.injEq, Text.sameName_iff]

/-- Headers that are the same one by one are the same when lowered. -/
theorem map_lowered_of_sameHeader {headers headers' : List (String × String)}
    (h : List.Forall₂ SameHeader headers headers') :
    headers'.map lowered = headers.map lowered := by
  induction h with
  | nil => rfl
  | cons hsame _ ih => rw [List.map_cons, List.map_cons, ih, lowered_eq_iff.mpr hsame]

/-- A header in small letters is the same header. -/
theorem sameHeader_map_lowered (headers : List (String × String)) :
    List.Forall₂ SameHeader headers (headers.map lowered) := by
  rw [List.forall₂_map_right_iff, List.forall₂_same]
  exact fun h _ => ⟨(Text.lowerCaseOf_iff.mpr rfl).1, rfl⟩

namespace RenderContext

variable {identity : Identity} {r : Request} {error : Option String}
  {headers : List (String × String)}

/-- A template sees the headers with lowered names, and the last value of each. -/
theorem ofRequest_headers :
    (ofRequest identity r error).headers = Dict.ofPairs (r.headers.map lowered) :=
  rfl

/-- The names that a template sees are those of the headers in lower case. -/
theorem mem_keys_headers {key : String} :
    key ∈ (ofRequest identity r error).headers.keys ↔
      ∃ h ∈ r.headers, Text.LowerCaseOf h.1 key := by
  rw [ofRequest_headers, Dict.mem_keys_ofPairs, List.map_map, List.mem_map]
  simp only [Text.lowerCaseOf_iff, Function.comp_apply, lowered, eq_comm]

/-- Under a name in small letters is the last header of the name. -/
theorem find?_headers {name key value : String} (hkey : Text.LowerCaseOf name key) :
    (ofRequest identity r error).headers.find? key = some value ↔
      Dict.LastValue (Text.SameName name) r.headers value := by
  have hsame : (fun other => other.map Char.toLower = key) = Text.SameName name := by
    funext other
    rw [Text.lowerCaseOf_iff.mp hkey]
    exact propext (eq_comm.trans Text.sameName_iff.symm)
  rw [ofRequest_headers, Dict.find?_ofPairs, ← hsame]
  exact Dict.lastValue_map

/-- Headers count as the dictionary that they make. -/
theorem ofRequest_congr
    (h : Dict.ofPairs (headers.map lowered) = Dict.ofPairs (r.headers.map lowered)) :
    ofRequest identity { r with headers := headers } error = ofRequest identity r error := by
  have hheaders : (ofRequest identity { r with headers := headers } error).headers =
      (ofRequest identity r error).headers := h
  show { ofRequest identity r error with
    headers := (ofRequest identity { r with headers := headers } error).headers } = _
  rw [hheaders]

end RenderContext

open RenderContext in
/-- **Templates see the last value of every name.** Whatever a request is told, a template sees an
attribute under exactly the names that were ever given, with the value given last. It sees a header
under exactly the names of the headers in small letters, with the value of the header that arrived
last of those whose name is the same up to the case of ASCII letters. It sees the same when the
names of headers are written in small letters beforehand, or any of them in another case, and when
two neighbours of different names change places.

The request may hold attributes and headers before it is told anything. -/
theorem context_of_details (start : Request) (hstart : start.attributes.Ordered)
    (details : List Request.Detail) (identity : Identity) (error : Option String) :
    let r := start.tellAll details
    let seen := ofRequest identity r error
    let given := start.attributes ++ Request.attributesOf details
    let arrived := start.headers ++ Request.headersOf details
    (seen.attributes.Ordered ∧
      (∀ name, name ∈ seen.attributes.keys ↔ name ∈ given.map (·.1)) ∧
      ∀ name value, seen.attributes.find? name = some value ↔
        Dict.LastValue (· = name) given value) ∧
    (seen.headers.Ordered ∧
      (∀ key, key ∈ seen.headers.keys ↔ ∃ h ∈ arrived, Text.LowerCaseOf h.1 key) ∧
      ∀ name key value, Text.LowerCaseOf name key →
        (seen.headers.find? key = some value ↔
          Dict.LastValue (Text.SameName name) arrived value)) ∧
    r.headers = arrived ∧
    ofRequest identity { r with headers := arrived.map lowered } error = seen ∧
    (∀ respelled, List.Forall₂ SameHeader arrived respelled →
      ofRequest identity { r with headers := respelled } error = seen) ∧
    ∀ before h h' after, arrived = before ++ h :: h' :: after → ¬ Text.SameName h.1 h'.1 →
      ofRequest identity { r with headers := before ++ h' :: h :: after } error = seen := by
  intro r seen given arrived
  have hattributes : seen.attributes =
      (Request.attributesOf details).foldl (fun d p => d.insert p.1 p.2) start.attributes :=
    Request.tellAll_attributes details
  have harrived : r.headers = arrived := Request.tellAll_headers details
  have hrespelled : ∀ respelled, List.Forall₂ SameHeader arrived respelled →
      ofRequest identity { r with headers := respelled } error = seen := by
    intro respelled h
    refine ofRequest_congr ?_
    rw [harrived, map_lowered_of_sameHeader h]
  refine ⟨?_, ⟨Dict.ordered_ofPairs _, fun key => ?_, fun name key value hkey => ?_⟩, harrived,
    hrespelled _ (sameHeader_map_lowered arrived), hrespelled,
    fun before h h' after hbefore hname => ?_⟩
  · rw [hattributes]
    exact ⟨hstart.alterAll, fun name => Dict.mem_keys_insertAll,
      fun name value => Dict.find?_insertAll hstart _⟩
  · rw [← harrived]
    exact mem_keys_headers
  · rw [← harrived]
    exact find?_headers hkey
  · have hne : (lowered h).1 ≠ (lowered h').1 := mt Text.sameName_iff.mpr hname
    refine ofRequest_congr ?_
    rw [harrived, hbefore]
    simp only [List.map_append, List.map_cons]
    exact Dict.ofPairs_swap hne _ _

open RenderContext in
/-- A header that comes three times under three spellings, between two headers whose names differ in
a letter that has no case, and an attribute that was there before it is told twice. -/
theorem context_of_details_respelled :
    let identity : Identity := ⟨[⟨['p'], by decide⟩], by decide⟩
    let start := (Request.forPath "/p").withAttribute "role" "nobody"
    let details : List Request.Detail :=
      [.withHeader "X-User" "eve", .withAttribute "role" "guest", .withHeader "Étag" "1",
        .withHeader "x-user" "bob", .withMethod "post", .withHeader "étag" "2",
        .withAttribute "role" "admin", .withHeader "x-uSER" "ann"]
    let r := start.tellAll details
    let seen := ofRequest identity r none
    start.attributes.Ordered ∧
      seen.attributes.find? "role" = some "admin" ∧
      seen.headers.find? "x-user" = some "ann" ∧
      seen.headers.find? "Étag" = some "1" ∧
      ofRequest identity
        { r with headers := [("Étag", "1"), ("X-User", "eve"), ("x-user", "bob"), ("étag", "2"),
            ("x-uSER", "ann")] } none = seen := by
  intro identity start details r seen
  have hstart : start.attributes.Ordered := Dict.Ordered.alter List.Pairwise.nil
  obtain ⟨⟨-, -, hattribute⟩, ⟨-, -, hheader⟩, -, -, -, hswap⟩ :=
    context_of_details start hstart details identity none
  have huser : Text.LowerCaseOf "X-USER" "x-user" := by decide +kernel
  have htag : Text.LowerCaseOf "ÉTAG" "Étag" := by decide +kernel
  refine ⟨hstart, (hattribute _ _).mpr ?_, (hheader _ _ _ huser).mpr ?_,
    (hheader _ _ _ htag).mpr ?_, ?_⟩
  · exact ⟨[("role", "nobody"), ("role", "guest")], "role", [], rfl, rfl, by simp⟩
  · exact ⟨[("X-User", "eve"), ("Étag", "1"), ("x-user", "bob"), ("étag", "2")], "x-uSER", [], rfl,
      by decide, by simp⟩
  · exact ⟨[("X-User", "eve")], "Étag", [("x-user", "bob"), ("étag", "2"), ("x-uSER", "ann")], rfl,
      by decide, by decide⟩
  · exact hswap [] ("X-User", "eve") ("Étag", "1")
      [("x-user", "bob"), ("étag", "2"), ("x-uSER", "ann")] rfl (by decide)

end TemplateServer
