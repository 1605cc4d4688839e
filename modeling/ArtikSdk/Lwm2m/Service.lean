import ArtikSdk.Lwm2m.State

/-!
# LWM2M: between the calls

What hooks, idle callbacks, timers and service threads do to the state, a case for each way
through them.
-/

namespace ArtikSdk.Lwm2m
open Lib

/-- From `s` to what is left of it when a hook, an idle callback, its return, a timer or a service
thread has run. -/
inductive Between (port : Port) (s : State) : State → Prop where
  | nothing : Between port s s
  | waits {n : Node} {id : Nat} {h : Hook} :
      port = .linux → n ∈ s.nodes → Between port s { s with idles := s.idles ++ [⟨id, n.number, h⟩] }
  | passes {i : Idle} : i ∈ s.idles → Between port s { s with idles := s.idles.filter fun j => j.id ≠ i.id }
  | enters {i : Idle} :
      i ∈ s.idles → Between port s { s with idles := s.idles.filter fun j => j.id ≠ i.id, entered := i.node :: s.entered }
  | returns {k : Nat} {rest : List Nat} : s.entered = k :: rest → Between port s { s with entered := rest }
  | fires {t : Timer} : t ∈ s.timers → Between port s (s.removeTimeout t.id)
  | rearms {t : Timer} {n : Node} {timer : Malloc} {s' : State} :
      t ∈ s.timers → n ∈ s.nodes →
        ((s.removeTimeout t.id).removeTimeout n.serviceCbkId).addTimeout timer n.number = some s' → Between port s s'
  | unarmed {t : Timer} {n : Node} {c : Client} :
      t ∈ s.timers → n ∈ s.nodes → c ∈ s.clients → n.number = c.number →
        Between port s (disconnect .linux none n.client ((s.removeTimeout t.id).removeTimeout n.serviceCbkId)).1
  | leaves {t : Thread} {k : Nat} :
      t ∈ s.threads →
        Between port s { s with threads := s.threads.map fun t => if t.node = k then { t with leaving := true } else t }
  | ends {k : Nat} : Between port s (s.endThread k)
  | quits {k : Nat} : Between port s ((s.update k fun n => { n with quit := true }).endThread k)

theorem node_mem {k : Nat} {s : State} {n : Node} (found : s.node k = some n) : n ∈ s.nodes ∧ n.number = k :=
  ⟨List.mem_of_find?_eq_some found, of_decide_eq_true (List.find?_some (p := fun n : Node => decide (n.number = k)) found)⟩

theorem client_mem {k : Nat} {s : State} {c : Client} (found : s.client k = some c) : c ∈ s.clients ∧ c.number = k :=
  ⟨List.mem_of_find?_eq_some found, of_decide_eq_true (List.find?_some (p := fun c : Client => decide (c.number = k)) found)⟩

variable {port : Port} {s s' : State} {o : Output}

theorem onHook_between {k : Nat} {h : Hook} {params : Bool} {idle : Malloc}
    (answered : onHook port k h params idle s = .ok (s', o)) : Between port s s' := by
  unfold onHook at answered
  split at answered
  · cases answered
    exact .nothing
  · split at answered
    · cases answered
    · rename_i n found
      split at answered
      · cases answered
        exact .nothing
      · split at answered
        · cases answered
        · cases port with
          | tinyara =>
            cases answered
            exact .nothing
          | linux =>
            dsimp only at answered
            split at answered
            · cases answered
              exact .nothing
            · cases answered
              exact .waits rfl (node_mem found).1

theorem onIdleCallback_between {id : Nat} (answered : onIdleCallback id s = .ok (s', o)) : Between port s s' := by
  unfold onIdleCallback at answered
  split at answered
  · cases answered
    exact .nothing
  · rename_i i waiting
    have member := List.mem_of_find?_eq_some waiting
    obtain rfl : i.id = id := of_decide_eq_true (List.find?_some (p := fun i : Idle => decide (i.id = id)) waiting)
    dsimp only at answered
    split at answered
    · cases answered
    · split at answered
      · cases answered
        exact .passes member
      · cases answered
        exact .enters member

theorem onIdleReturned_between (answered : onIdleReturned s = .ok (s', o)) : Between port s s' := by
  unfold onIdleReturned at answered
  split at answered
  · cases answered
    exact .nothing
  · rename_i k rest entered
    split at answered
    · cases answered
    · cases answered
      exact .returns entered

theorem onServiceCallback_between {id : Nat} {result : Serviced} {timer : Malloc}
    (answered : onServiceCallback id result timer s = .ok (s', o)) : Between port s s' := by
  unfold onServiceCallback at answered
  split at answered
  · cases answered
    exact .nothing
  · rename_i t armed
    have member := List.mem_of_find?_eq_some armed
    obtain rfl : t.id = id := of_decide_eq_true (List.find?_some (p := fun t : Timer => decide (t.id = id)) armed)
    dsimp only at answered
    split at answered
    · rename_i n c found running
      obtain ⟨listed, number⟩ := node_mem found
      obtain ⟨present, number'⟩ := client_mem running
      split at answered
      · split at answered
        · cases answered
          exact .unarmed member listed present (number.trans number'.symm)
        · rename_i t' added
          cases answered
          exact .rearms member listed added
      · cases answered
        exact .fires member
    · cases answered

theorem serviceThread_between {k : Nat} {result : Serviced} (answered : serviceThread k result s = .ok (s', o)) :
    Between port s s' := by
  unfold serviceThread at answered
  split at answered
  · cases answered
    exact .nothing
  · rename_i t runs
    split at answered
    · split at answered
      · cases answered
        exact .quits
      · split at answered
        · cases answered
          exact .ends
        · split at answered
          · cases answered
            exact .nothing
          · cases answered
            exact .leaves (List.mem_of_find?_eq_some runs)
    · cases answered

/-- Inputs that are no calls of the module. -/
def Input.between : Input → Bool
  | .hook .. | .timeout .. | .idle _ | .returned | .thread .. => true
  | _ => false

theorem step_between {input : Input} (between : input.between = true) (answered : step port input s = .ok (s', o)) :
    Between port s s' := by
  cases input with
  | hook node h params idle => exact onHook_between answered
  | timeout id result timer => exact onServiceCallback_between answered
  | idle id => exact onIdleCallback_between answered
  | returned => exact onIdleReturned_between answered
  | thread node result => exact serviceThread_between answered
  | _ => cases between

end ArtikSdk.Lwm2m
