import TemplateServer.Compiler

/-!
# A compiler that echoes

Its artifacts answer their own source, followed by the error if there is one. Two sources are
special: one is refused, and one cannot be released. The compiler counts what it is asked to do,
which shows how often the rest of the library asks.
-/

namespace TemplateServer.Echo

def refusedSource : String := "<<fail-compile>>"

def stuckSource : String := "<<release-fails>>"

structure Counts where
  /-- Compilations, those that failed included. -/
  compiles : Nat
  executions : Nat
  /-- Releases, without those that failed. -/
  releases : Nat
deriving DecidableEq, Repr

def Counts.zero : Counts := ⟨0, 0, 0⟩

/-- The compiler. An artifact is the text of its source. -/
def compiler : Compiler Counts String where
  compile identity source n :=
    let n := { n with compiles := n.compiles + 1 }
    if source = refusedSource then
      (.error (.compile identity.text "rejected by test compiler"), n)
    else (.ok source, n)
  execute source context n :=
    let n := { n with executions := n.executions + 1 }
    match context.error with
    | some error => (.ok (source ++ "\n" ++ error), n)
    | none => (.ok source, n)
  release source n :=
    if source = stuckSource then (.error "release refused by test artifact", n)
    else (.ok (), { n with releases := n.releases + 1 })
  notes _ _ := []

end TemplateServer.Echo
