set_option autoImplicit false

/-! The order in which those who wait for the end learn of it. Whoever comes takes the last place,
and the place of one who leaves goes to the last. The last learns of the end first, and then the
others from the front. -/
namespace Switchyard.Rehearsal

inductive Member where
  | request (seq : Nat)
  /-- One of the tasks that purge expired traces. -/
  | cleanup (index : Nat)
  deriving Repr, DecidableEq

structure Roster where
  members : List Member := []

namespace Roster

def join (roster : Roster) (member : Member) : Roster := ⟨roster.members ++ [member]⟩

/-- The places in front of the last, once a member has left them and the last has moved up. -/
def vacate (member last : Member) : List Member → List Member
  | [] => []
  | first :: rest => if first = member then last :: rest else first :: vacate member last rest

def leave (roster : Roster) (member : Member) : Roster :=
  match roster.members.getLast? with
  | some last => ⟨if last = member then roster.members.dropLast
      else vacate member last roster.members.dropLast⟩
  | none => roster

/-- Only those stay who still wait; the others leave in the order of their places. -/
def keep (roster : Roster) (waits : Member → Bool) : Roster :=
  (roster.members.filter fun member => !waits member).foldl leave roster

/-- The members in the order in which they learn of the end. -/
def callOrder (roster : Roster) : List Member :=
  roster.members.getLast?.toList ++ roster.members.dropLast

end Roster

end Switchyard.Rehearsal
