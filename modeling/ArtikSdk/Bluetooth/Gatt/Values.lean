import ArtikSdk.Bluetooth.Gatt.Answers

/-!
# GATT server: stored values and their buffers

Next to the server runs the ledger, which knows only what was accepted and asked. The stored
values are those of the ledger, and every buffer has one owner until it is freed.
-/

namespace ArtikSdk.Bluetooth.Gatt
open Lib

/-- The server and the ledger. -/
structure Session where
  hci : Hci
  ledger : Ledger

def Session.init : Session := ⟨.init, .init⟩

def Session.step (e : Event) (w : Session) : Except Fault (Session × Output) :=
  (Gatt.step e w.hci).map fun r => (⟨r.1, e.enter r.2.result w.hci w.ledger⟩, r.2)

/-- Every attribute stores what was accepted last, and every buffer that was not freed belongs to
one attribute or request. -/
structure Session.Sound (w : Session) : Prop where
  stored : ∀ a ∈ w.hci.attributes, a.Holds w.hci.heap (w.ledger.accepted a.objectId)
  owned : w.hci.heap.Owned (owners w.hci.attributes w.hci.requests)
  noLeak : w.hci.NoLeak

/-- What makes a state sound, and more: the requests are tied to the ledger, too. -/
def Session.Inv (w : Session) : Prop := w.hci.Tied w.ledger ∧ w.hci.NoLeak

theorem Session.Inv.sound {w : Session} (inv : w.Inv) : w.Sound := ⟨inv.1.holds, inv.1.owned, inv.2⟩

theorem Session.step_ok {e : Event} {w w' : Session} {o : Output} (inv : w.Inv) (answered : w.step e = .ok (w', o)) :
    e.Crashless w.hci ∧ w'.hci.Tied w'.ledger ∧ (w'.hci.NoLeak ↔ e.Frees w.hci) := by
  obtain ⟨r, done, result⟩ := map_ok_iff.1 answered
  cases result
  have does := step_tied inv.1 done
  exact ⟨step_crashless inv.1 done, does.tied, does.frees inv.2⟩

theorem Session.step_exact {e : Event} {w : Session} (inv : w.Inv) :
    (∃ w' o, w.step e = .ok (w', o) ∧ w'.Sound) ↔ e.Crashless w.hci ∧ e.Frees w.hci := by
  constructor
  · rintro ⟨w', o, answered, sound⟩
    obtain ⟨crashless, -, frees⟩ := step_ok inv answered
    exact ⟨crashless, frees.1 sound.noLeak⟩
  · rintro ⟨crashless, frees⟩
    obtain ⟨s', o, answered, does⟩ := step_does inv.1 crashless
    have after : Session.Inv ⟨s', e.enter o.result w.hci w.ledger⟩ := ⟨does.tied, (does.frees inv.2).2 frees⟩
    exact ⟨_, o, by rw [Session.step, answered]; rfl, after.sound⟩

end ArtikSdk.Bluetooth.Gatt
