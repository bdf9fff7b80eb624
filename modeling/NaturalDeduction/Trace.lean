import NaturalDeduction.Trace.Datum

/-!
# Tracing calls

A trace writes a line when a function is called and one when it returns, indented by the calls in
progress. A call that fails has no line for its return, and neither have the calls around it, up to
one whose caller catches the failure. The indentation is the same after a call as before it, whether
it fails or not (`Call.run_indent`).
-/

namespace NaturalDeduction.Trace

/-- How a function is traced. -/
structure Settings where
  /-- By how much the calls in it are indented. -/
  step : Int
  /-- Whether its return is shown. -/
  showsReturn : Bool
  /-- Whether what is long is set in lines. -/
  inLines : Bool

/-- A call of a traced function and what happens in it. -/
inductive Call where
  /-- The name of the function, its arguments, those with names, how it is traced, the calls in it,
  whether it then fails, whether its caller catches a failure, and what it returns otherwise. -/
  | mk (name : String) (args : List Datum) (namedArgs : List (String × Datum)) (settings : Settings)
    (inner : List Call) (fails caught : Bool) (result : Datum)

/-- What a call leaves behind. -/
structure Outcome where
  /-- The lines written. -/
  text : String
  /-- The indentation afterwards. -/
  indent : Int
  /-- Whether it failed. -/
  failed : Bool

/-- Something as it is shown in a line. -/
def Settings.shown (s : Settings) (d : Datum) : String :=
  if s.inLines then d.lined 0 0 true else d.literal

/-- The spaces at the front of a line; a negative indentation is none. -/
def margin (indent : Int) : String :=
  String.ofList (List.replicate indent.toNat ' ')

/-- The line for a call. -/
def callLine (indent : Int) (name : String) (args : List Datum)
    (namedArgs : List (String × Datum)) (s : Settings) : String :=
  let shown := args.map s.shown ++ namedArgs.map fun (k, d) => k ++ "=" ++ s.shown d
  margin indent ++ "--> " ++ name ++ "(" ++ ", ".intercalate shown ++ ")\n"

/-- The line for a return. -/
def returnLine (indent : Int) (name : String) (result : Datum) (s : Settings) : String :=
  if s.showsReturn then margin indent ++ "<-- " ++ name ++ " == " ++ s.shown result ++ "\n" else ""

/-- Whether the caller of a call catches its failure. -/
def Call.isCaught : Call → Bool
  | mk _ _ _ _ _ _ caught _ => caught

mutual

/-- Carries out a call when the indentation is `indent`. -/
def Call.run (indent : Int) : Call → Outcome
  | .mk name args namedArgs s inner fails _ result =>
    let within := runAll (indent + s.step) inner
    let text := callLine indent name args namedArgs s ++ within.text
    let failed := within.failed || fails
    { text := if failed then text else text ++ returnLine indent name result s
      indent := within.indent - s.step
      failed }

/-- Carries out calls one after the other, until one fails and is not caught. -/
def runAll (indent : Int) : List Call → Outcome
  | [] => ⟨"", indent, false⟩
  | c :: cs =>
    let first := c.run indent
    if first.failed && !c.isCaught then first
    else
      let later := runAll first.indent cs
      { later with text := first.text ++ later.text }

end

mutual

/-- The indentation is the same after a call as before it. -/
theorem Call.run_indent (indent : Int) : (c : Call) → (c.run indent).indent = indent
  | .mk name args namedArgs s inner fails caught result => by
    simp only [Call.run, runAll_indent (indent + s.step) inner]
    omega

/-- The indentation is the same after several calls as before them. -/
theorem runAll_indent (indent : Int) : (cs : List Call) → (runAll indent cs).indent = indent
  | [] => rfl
  | c :: cs => by
    simp only [runAll]
    split
    · exact Call.run_indent indent c
    · simp only [Call.run_indent indent c, runAll_indent indent cs]

end

end NaturalDeduction.Trace
