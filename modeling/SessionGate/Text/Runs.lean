/- Sets of characters, given by the runs of code points in them. -/
namespace SessionGate.Text

abbrev Runs := List (Nat × Nat)

def Runs.has (runs : Runs) (c : Char) : Bool :=
  runs.any fun run => run.1 ≤ c.toNat && c.toNat ≤ run.2

end SessionGate.Text
