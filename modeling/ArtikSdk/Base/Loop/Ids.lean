import ArtikSdk.Base.Loop.Completion

/-!
# Ids

The counter of a kind gives the ids 0 to 254 in turn, so a record's id is the number of its add
modulo 255, and two records of a kind have one id when 255 adds of the kind or a multiple of it
lie between them. Over a run in which that does not happen, and no idler is added whose memory
holds another id than the one returned, an id names one registration.
-/

namespace ArtikSdk.Loop
open Lib

/-- No two live registrations of a kind have the same id, neither in their records nor in what
their adds returned. -/
structure Distinct (s : State) : Prop where
  carried : ∀ k, ((s.live k).map Record.id).Nodup
  returned : ∀ k, ((s.live k).map Record.issued).Nodup

/-- A call finds and leaves distinct ids, and a removal takes out exactly the registration
whose add returned the id. -/
structure Exact (c : Call Op State Int) : Prop where
  before : Distinct c.before
  after : Distinct c.after
  remove : ∀ k id residue, c.input = .remove k id residue →
    Unregisters (fun k' r => k' = k && r.issued = id) c.before c.after

/-! ## The counters -/

structure Ids (s : State) : Prop where
  registered : Registered s
  id : ∀ k, ∀ p ∈ s.vector k, (s.block p).contents.id = ((s.block p).contents.number % 255 : Nat)
  issued : ∀ k, ∀ p ∈ s.vector k, (s.block p).contents.issued = ((s.block p).contents.number % 255 : Nat)
  next : ∀ k, s.nextId k ≤ 255 ∧ s.nextId k % 255 = s.added k % 255
  apart : ∀ k, ∀ p ∈ s.vector k, ∀ q ∈ s.vector k,
    (s.block p).contents.number % 255 = (s.block q).contents.number % 255 → p = q

theorem Ids.init : Ids State.init where
  registered := .init
  id k p member := by cases member
  issued k p member := by cases member
  next k := ⟨Nat.zero_le _, rfl⟩
  apart k p member := by cases member

variable {s s' : State} {k : Kind} {p h : Nat} {id : Int} {residue : Residue} {args : AddArgs} {op : Op} {o : Int}

theorem Ids.issue (ids : Ids s) (k : Kind) : s.issue k = s.added k % 255 := by
  obtain ⟨bound, same⟩ := ids.next k
  rw [State.issue]
  split <;> omega

theorem Ids.distinct (ids : Ids s) : Distinct s := by
  have apart : ∀ (f : Record → Int) k, (∀ p ∈ s.vector k, f (s.block p).contents = ((s.block p).contents.number % 255 : Nat)) →
      ((s.live k).map f).Nodup := by
    intro f k reads
    rw [State.live, List.map_map]
    refine List.Nodup.map_on ?_ (ids.registered.once k)
    intro p left q right same
    apply ids.apart k p left q right
    rw [Function.comp, reads p left] at same
    rw [Function.comp, reads q right] at same
    exact Int.ofNat.inj same
  exact ⟨fun k => apart _ k (ids.id k), fun k => apart _ k (ids.issued k)⟩

theorem Ids.shrink {stays : Kind → Nat → Bool} (less : Shrinks stays s s') (ids : Ids s) : Ids s' where
  registered := less.registered ids.registered
  id k p member := by
    rw [less.block k p member]
    exact ids.id k p (less.mem.mp member).1
  issued k p member := by
    rw [less.block k p member]
    exact ids.issued k p (less.mem.mp member).1
  next k := by
    rw [less.nextId, less.added]
    exact ids.next k
  apart k p left q right same := by
    rw [less.block k p left, less.block k q right] at same
    exact ids.apart k p (less.mem.mp left).1 q (less.mem.mp right).1 same

/-! ## The condition -/

/-- No live registration of the kind is 255 adds old, or a multiple of it. -/
def Room (k : Kind) (s : State) : Prop := ∀ r ∈ s.live k, (s.added k - r.number) % 255 ≠ 0

instance (k : Kind) (s : State) : Decidable (Room k s) := inferInstanceAs (Decidable (∀ r ∈ s.live k, (s.added k - r.number) % 255 ≠ 0))

/-- A call that does not overtake a live registration; an idler finds its id in its memory. -/
def Fits (c : Call Op State Int) : Prop :=
  ∀ k args, c.input = .add k args → Room k c.before ∧ (k = .idle → args.garbage.id = c.before.issue .idle)

/-- All calls of an event fit, and a callback that ends its registration did not remove it. -/
def FitsEvent (c : Call Event State (List (Call Op State Int))) : Prop :=
  (∀ m ∈ c.output, Fits m) ∧
    ∀ k h ops ret residue p, c.input = .fire k h ops ret residue → c.before.handle h = some (k, p) →
      ends k (c.before.block p).contents.func ret = true →
        ∀ m ∈ c.output, m.input.removes k (c.before.block p).contents.id = false

/-! ## One call -/

theorem Ids.entered {contents : Record} (ids : Ids s) (fresh : Fresh s k p h contents) (room : Room k s)
    (id : contents.id = s.issue k) (issued : contents.issued = s.issue k) : Ids (entered k p h contents s) := by
  have old : ∀ k' q, q ∈ s.vector k' → (Loop.entered k p h contents s).block q = s.block q := fun k' q member =>
    entered_old ids.registered fresh member
  have apart : ∀ q ∈ s.vector k, (s.block q).contents.number % 255 ≠ s.added k % 255 := by
    intro q member same
    apply room _ (List.mem_map_of_mem member)
    have less := ids.registered.past k q member
    omega
  refine ⟨entered_registered ids.registered fresh, ?_, ?_, ?_, ?_⟩
  · intro k' q member
    rcases entered_mem.mp member with before | ⟨rfl, rfl⟩
    · rw [old k' q before]
      exact ids.id k' q before
    · rw [entered_new]
      show contents.id = _
      rw [id, ids.issue, fresh.number]
  · intro k' q member
    rcases entered_mem.mp member with before | ⟨rfl, rfl⟩
    · rw [old k' q before]
      exact ids.issued k' q before
    · rw [entered_new]
      show contents.issued = _
      rw [issued, ids.issue, fresh.number]
  · intro k'
    show Function.update s.nextId k _ k' ≤ 255 ∧ Function.update s.nextId k _ k' % 255 = Function.update s.added k _ k' % 255
    by_cases same : k' = k
    · subst same
      rw [Function.update_self, Function.update_self, ids.issue]
      omega
    · rw [Function.update_of_ne same, Function.update_of_ne same]
      exact ids.next k'
  · intro k' q left r right same
    rcases entered_mem.mp left with before | ⟨rfl, rfl⟩
    · rw [old k' q before] at same
      rcases entered_mem.mp right with before' | ⟨rfl, rfl⟩
      · rw [old k' r before'] at same
        exact ids.apart k' q before r before' same
      · rw [entered_new, fresh.number] at same
        exact absurd same (apart q before)
    · rw [entered_new, fresh.number] at same
      rcases entered_mem.mp right with before | ⟨-, rfl⟩
      · rw [old k' r before] at same
        exact absurd same.symm (apart r before)
      · rfl

theorem api_ids (ids : Ids s) (answered : api op s = .ok (s', o)) (fits : Fits ⟨s, op, s', o⟩) : Ids s' := by
  cases op with
  | add k args =>
    obtain ⟨room, idle⟩ := fits k args rfl
    obtain ⟨p, h, contents, fresh, rfl, -, issued, id⟩ := add_cases answered
    apply ids.entered fresh room _ issued
    rw [id, storedId]
    split
    · rename_i it
      subst it
      exact idle rfl
    · rfl
  | remove k id residue =>
    rw [remove_cases ids.registered answered]
    exact ids.shrink (removed_shrinks ids.registered k id residue)

theorem remove_exact (ids : Ids s) (answered : api (.remove k id residue) s = .ok (s', o)) :
    Unregisters (fun k' r => k' = k && r.issued = id) s s' := by
  rw [remove_cases ids.registered answered]
  refine (removed_shrinks ids.registered k id residue).unregisters ids.registered fun k' p member => ?_
  rw [ids.id k' p member, ids.issued k' p member]

theorem api_exact (ids : Ids s) (answered : api op s = .ok (s', o)) (fits : Fits ⟨s, op, s', o⟩) : Exact ⟨s, op, s', o⟩ where
  before := ids.distinct
  after := (api_ids ids answered fits).distinct
  remove k id residue same := by
    cases same
    exact remove_exact ids answered

/-- The calls of a user callback. -/
theorem calls_exact {calls : List (Call Op State Int)} (run : Run api s calls s') (ids : Ids s) (fits : ∀ m ∈ calls, Fits m) :
    Ids s' ∧ ∀ m ∈ calls, Exact m := by
  induction run with
  | nil => exact ⟨ids, fun m inside => by cases inside⟩
  | cons answered _ ih =>
    have first := fits _ (List.mem_cons_self ..)
    obtain ⟨last, rest⟩ := ih (api_ids ids answered first) fun m inside => fits m (List.mem_cons_of_mem _ inside)
    refine ⟨last, fun m inside => ?_⟩
    rcases List.mem_cons.mp inside with rfl | inside
    · exact api_exact ids answered first
    · exact rest m inside

/-! ## One event -/

variable {ops : List Op} {ret : Int} {calls : List (Call Op State Int)}

theorem fire_cases (fired : fire k h ops ret residue s = .ok (s', calls)) :
    ∃ p s₁, s.handle h = some (k, p) ∧ userCall (checks k) p ops s = .ok (calls, s₁) ∧
      (ends k (s.block p).contents.func ret = true ∧ complete k p residue s₁ = .ok s' ∨
        ends k (s.block p).contents.func ret = false ∧ s' = s₁) := by
  cases armed : s.handle h with
  | none =>
    rw [fire_eq, callback, armed] at fired
    cases fired
  | some held =>
    obtain ⟨k', p⟩ := held
    by_cases same : k' = k
    · subst same
      cases called : userCall (checks k') p ops s with
      | error f =>
        rw [fire_eq, callback, armed] at fired
        dsimp only at fired
        rw [if_neg (not_not.mpr rfl), called] at fired
        cases fired
      | ok r =>
        obtain ⟨made, s₁⟩ := r
        cases ended : ends k' (s.block p).contents.func ret with
        | true =>
          rw [fire_ends armed called ended] at fired
          cases done : complete k' p residue s₁ with
          | error f =>
            rw [done] at fired
            cases fired
          | ok t =>
            rw [done] at fired
            cases fired
            exact ⟨p, s₁, rfl, called, .inl ⟨ended, done⟩⟩
        | false =>
          rw [fire_goes_on armed called ended] at fired
          cases fired
          exact ⟨p, _, rfl, called, .inr ⟨ended, rfl⟩⟩
    · rw [fire_eq, callback, armed] at fired
      dsimp only at fired
      rw [if_pos same] at fired
      cases fired

theorem step_exact {e : Event} (ids : Ids s) (answered : step e s = .ok (s', calls)) (fits : FitsEvent ⟨s, e, s', calls⟩) :
    Ids s' ∧ ∀ m ∈ calls, Exact m := by
  cases e with
  | call op =>
    rw [step] at answered
    cases made : api op s with
    | error f =>
      rw [made] at answered
      cases answered
    | ok r =>
      rw [made] at answered
      cases answered
      have only := fits.1 _ (List.mem_singleton_self _)
      refine ⟨api_ids ids made only, fun m inside => ?_⟩
      rw [List.mem_singleton.mp inside]
      exact api_exact ids made only
  | fire k h ops ret residue =>
    obtain ⟨p, s₁, armed, called, ⟨ended, done⟩ | ⟨-, rfl⟩⟩ := fire_cases answered
    · have run := userCall_run called
      obtain ⟨ids₁, exact⟩ := calls_exact run ids fits.1
      refine ⟨?_, exact⟩
      -- the record is where it was, so that nothing but records leave
      obtain ⟨member, -⟩ := calls_keep run ids.registered (ids.registered.owner h k p armed).1
        (fits.2 k h ops ret residue p rfl armed ended)
      by_cases quiet : (residue p).handle = 0
      · rw [complete_eq ids₁.registered member fun _ => quiet] at done
        cases done
        exact ids₁.shrink (complete_shrinks ids₁.registered member quiet)
      · obtain ⟨f, fails⟩ := complete_fails ids₁.registered member quiet
        rw [fails] at done
        cases done
    · exact calls_exact (userCall_run called) ids fits.1

/-! ## Every run -/

theorem run_exact {cs : List (Call Event State (List (Call Op State Int)))} (run : Run step s cs s') (ids : Ids s)
    (fits : ∀ c ∈ cs, FitsEvent c) : Ids s' ∧ ∀ c ∈ cs, Distinct c.after ∧ ∀ m ∈ c.output, Exact m := by
  induction run with
  | nil => exact ⟨ids, fun c inside => by cases inside⟩
  | cons answered _ ih =>
    obtain ⟨ids', exact⟩ := step_exact ids answered (fits _ (List.mem_cons_self ..))
    obtain ⟨last, rest⟩ := ih ids' fun c inside => fits c (List.mem_cons_of_mem _ inside)
    refine ⟨last, fun c inside => ?_⟩
    rcases List.mem_cons.mp inside with rfl | inside
    · exact ⟨ids'.distinct, exact⟩
    · exact rest c inside

end ArtikSdk.Loop
