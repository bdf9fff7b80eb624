import NaturalDeduction.Error
import NaturalDeduction.Value.Order

/-!
# Levels of a log

A level is a number; the usual ones have names, some of them two. A level may be asked for by its
number or by a name (`Level.ofValue`), and is shown by its name if it has one (`Level.nameOf`).
-/

namespace NaturalDeduction.Level

/-- The names of levels. Of two names of one level the first is the one that is shown. -/
def named : List (String × Int) :=
  [("CRITICAL", 50), ("FATAL", 50), ("ERROR", 40), ("WARNING", 30), ("WARN", 30), ("INFO", 20),
    ("DEBUG", 10), ("NOTSET", 0)]

/-- The level at which records pass when none or zero is asked for. -/
def standard : Int := 30

/-- The level that a value asks for. -/
def ofValue : Value → Except Error Int
  | .text s =>
    match named.lookup s with
    | some n => .ok n
    | none => .error (.unknownLevel s)
  | v =>
    match v.toInt? with
    | some n => .ok n
    | none => .error .wrongKind

/-- The name of a level, which may come as any value that can be looked up. A name stands for the
number of its level, and what has no name is shown as it is. -/
def nameOf (v : Value) : Except Error String :=
  if !v.isKey then .error .wrongKind
  else
    match named.find? fun l => v.agrees (.int l.2) with
    | some l => .ok l.1
    | none =>
      match v.toText?.bind fun s => named.lookup s with
      | some n => .ok (toString n)
      | none => .ok ("Level " ++ v.display)

end NaturalDeduction.Level
