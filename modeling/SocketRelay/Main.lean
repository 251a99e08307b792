import SocketRelay.Live.Machine

/-!
# The command

Runs the program on the machine of this process.
-/

open SocketRelay

def main (words : List String) : IO UInt32 := do
  Program.run (← Live.machine) words
