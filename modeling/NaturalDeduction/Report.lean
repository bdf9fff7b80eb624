import NaturalDeduction.Error

/-!
# Reporting faults to a user

A fault of a user's input is reported in one line instead of an account of where it arose. The
reporter takes the place of the handler that was there before and hands all other faults on to it
(`Handlers.receive`). In an interactive shell it is also registered with the shell. Installing it
twice does no more than installing it once (`Handlers.install_install`).
-/

namespace NaturalDeduction

/-- The line that reports a fault. -/
def Error.reportLine (e : Error) : String :=
  e.reportName?.getD "ValueError" ++ ": " ++ e.message?.getD "" ++ "\n"

/-- Who handles faults. -/
inductive Handler where
  /-- The reporter of this library. -/
  | reporter
  /-- A handler from elsewhere. -/
  | foreign (id : Nat)
deriving DecidableEq

/-- What becomes of a fault. -/
inductive Reception where
  /-- It is reported. -/
  | reported (line : String)
  /-- It is handed on. -/
  | handedOn (receiver : Handler)

/-- The handlers in place. -/
structure Handlers where
  /-- The handler that faults go to. -/
  current : Handler
  /-- The handler for faults that the reporter does not report. -/
  fallback : Handler
  /-- Whether there is an interactive shell. -/
  hasShell : Bool
  /-- The handler that is registered with the shell for faults of a user's input. -/
  inShell : Option Handler
deriving DecidableEq

namespace Handlers

/-- Puts the reporter in place, and keeps the handler found there as the fallback. -/
def install (h : Handlers) : Handlers :=
  { h with
    current := .reporter
    fallback := if h.current = .reporter then h.fallback else h.current
    inShell := if h.hasShell then some .reporter else h.inShell }

/-- Installs the reporter a number of times. -/
def installTimes : Nat → Handlers → Handlers
  | 0, h => h
  | n + 1, h => installTimes n h.install

/-- What the reporter does with a fault. -/
def receive (h : Handlers) (e : Error) : Reception :=
  if e.reportName?.isSome then .reported e.reportLine else .handedOn h.fallback

/-- The fallback is the handler found at the first installation, however often it is repeated. -/
theorem install_install (h : Handlers) : h.install.install = h.install := by
  simp only [install, if_true, mk.injEq, true_and]
  split <;> simp

end Handlers

end NaturalDeduction
