import CommandAgent.Host.World
import CommandAgent.Terminal.Session

/-!
# Consoles

What can be done with a program on a terminal, whatever the terminal is: start it, see the portions
of output that will come as long as nothing more is typed, take some of them, type, and close.
Whoever reads asks for portions one by one, so how far they look ahead is not settled here; a reader
that wants more portions than will come finds the stream at its end.
-/

namespace CommandAgent.Terminal

/-- A kind of terminal whose states are `σ`. -/
structure Console (σ : Type) where
  /-- Start a program, with its arguments, on a terminal with that many columns and rows. -/
  start : String → List String → UInt16 → UInt16 → World → Except Fault σ
  /-- The portions of output from now on, if nothing more is typed. -/
  upcoming : σ → List Bytes
  /-- Ask for that many portions; time passes until the last of them is there. -/
  advance : Nat → σ → World → σ × World
  /-- Type bytes; the answer says how many were taken. -/
  write : Bytes → σ → World → Except Fault Nat × σ
  close : σ → World → σ

end CommandAgent.Terminal
