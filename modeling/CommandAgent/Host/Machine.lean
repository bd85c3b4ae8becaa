import CommandAgent.Host.World

/-!
# Machines

What the agent needs of its machine to run a program: to start it with its output going to a file,
and to wait until it has ended. Each step can be refused, so a machine says so step by step; what a
program does to the world is the machine's affair.
-/

namespace CommandAgent

structure Launch where
  program : String
  arguments : List String := []
  /-- Variables on top of the environment. -/
  settings : List (String × String) := []
  /-- The directory to start in, if it is not the agent's own. -/
  directory : Option String := none
deriving DecidableEq, Repr

inductive Ended where
  | exited (code : Nat)
  | killed (signal : Nat)
deriving DecidableEq, Repr

def Ended.code : Ended → Int
  | exited n => n
  | killed _ => -1

/-- Which step of running a program was refused. -/
inductive LaunchFault where
  | spawn (e : OsError)
  | wait (e : OsError)
deriving DecidableEq, Repr

/-- A machine. -/
structure Machine where
  /-- Get a second handle on an open file. -/
  duplicate : World → Except OsError Unit
  /-- Run a program to its end; what it writes goes to the end of the file at a place. -/
  run : Launch → Place → World → Except LaunchFault Ended × World

end CommandAgent
