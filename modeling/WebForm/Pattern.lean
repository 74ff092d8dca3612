import WebForm.Pattern.Machine
/-!
# Patterns

A pattern is kept as its source together with the engine that the source asks for, so the source
alone tells two patterns apart. The engine is an automaton where one can follow the whole pattern,
and a program otherwise.
-/

set_option autoImplicit false

namespace WebForm

namespace Pattern

/-- What finds the matches of a pattern. -/
inductive Engine where
  | automaton (a : Automaton)
  | program (p : Program)

namespace Engine

/-- The engine for the source of a pattern. -/
def ofSource (source : String) : Except PatternError Engine := do
  let reading ← Reading.ofSource source
  let e := reading.expr.withoutLastLook
  if e.isRegular reading.wanted then
    return .automaton (.ofRegular (← Regular.ofText (e.spelled .nothing)))
  else return .program (← Program.ofExpr reading.groups reading.wanted e)

/-- Whether there is a match somewhere in a text. -/
def occursIn (engine : Engine) (text : String) : Bool :=
  match engine with
  | .automaton a => a.occursIn text.toList.toArray
  | .program p => p.occursIn text.toList.toArray

end Engine

end Pattern

/-- A pattern that could be read. -/
structure Pattern where
  source : String
  engine : Pattern.Engine
  ofSource_source : Pattern.Engine.ofSource source = .ok engine

namespace Pattern

/-- Reads a pattern. -/
def ofSource (source : String) : Except PatternError Pattern :=
  match h : Engine.ofSource source with
  | .ok engine => .ok ⟨source, engine, h⟩
  | .error e => .error e

/-- Whether the pattern matches somewhere in a text. -/
def occursIn (p : Pattern) (text : String) : Bool := p.engine.occursIn text

/-- Patterns with one source are equal. -/
theorem ext_source {p q : Pattern} (h : p.source = q.source) : p = q := by
  obtain ⟨s, n, hn⟩ := p
  obtain ⟨t, m, hm⟩ := q
  cases h
  have : n = m := Except.ok.inj (hn.symm.trans hm)
  cases this
  rfl

instance : DecidableEq Pattern := fun p q =>
  if h : p.source = q.source then isTrue (ext_source h)
  else isFalse fun e => h (congrArg Pattern.source e)

/-- The pattern that was read has the source that was given. -/
theorem source_ofSource {source : String} {p : Pattern} (h : ofSource source = .ok p) :
    p.source = source := by
  unfold ofSource at h
  split at h
  · cases h
    rfl
  · cases h

end Pattern

end WebForm
