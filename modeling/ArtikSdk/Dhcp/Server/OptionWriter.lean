import ArtikSdk.Dhcp.Server.Reply
import ArtikSdk.Lib.Run

/-!
# DHCP server: the option writer

`dhcpd_addoption` called again and again behind `dhcpd_initpacket`. Its check takes the distance between the
start of the options and their END the wrong way round, so that every option passes it. What is written
behind the options of the message is written into the outgoing message all the same, which has no end here.
-/

namespace ArtikSdk.Dhcp.Server.OptionWriter
open Lib

/-- What `dhcpd_addoption` can be given: any code, and up to 255 bytes of data. -/
abbrev AnyOption := { o : Tlv.Opt // o.2.length < 256 }

/-- The bytes of the options of a message, from the magic cookie to the END. -/
def written (os : List Tlv.Opt) : List Byte := magicCookie ++ (Tlv.encode os ++ [Code.fin])

/-- The options fit into those of a message. -/
def Room (os : List Tlv.Opt) : Prop := (written os).length ≤ optionsSize

instance (os : List Tlv.Opt) : Decidable (Room os) := inferInstanceAs (Decidable (_ ≤ _))

/-- `g_state`, and the options that there was room for. -/
structure Writer where
  g : State
  accepted : List Tlv.Opt

/-- Behind `dhcpd_initpacket`. -/
def Writer.init (mtype : Byte) (g : State) : Writer := ⟨dhcpdInitpacket mtype g, initOptions mtype g.serverip⟩

/-- A call of `dhcpd_addoption`, and the length it returns. -/
def Writer.step (o : AnyOption) (w : Writer) : Except Empty (Writer × Nat) :=
  let called := dhcpdAddoption (Tlv.encodeOne o) w.g
  .ok (⟨called.2, if Room (w.accepted ++ [o.1]) then w.accepted ++ [o.1] else w.accepted⟩, called.1)

/-- `ds_optend` is inside of the options, there is the END, and in front of it there are the options so far. -/
structure Writer.Ends (w : Writer) (optend : Nat) : Prop where
  here : w.g.optend = some optend
  inside : Msg.options ≤ optend ∧ optend < Msg.options + optionsSize
  fin : w.g.outpacket optend = Code.fin
  front : w.g.outpacket.load Msg.options (optend - Msg.options) = magicCookie ++ Tlv.encode w.accepted

/-- **The law of a call**: behind it the options end as they should, and an option without room changes nothing. -/
structure Keeps (c : Call AnyOption Writer Nat) : Prop where
  ends : ∃ optend, c.after.Ends optend
  unchanged : ¬ Room (c.before.accepted ++ [c.input.1]) → c.after.g = c.before.g

variable {g : State} {w w' : Writer} {o : AnyOption} {n : Nat} {os : List Tlv.Opt}

theorem written_length : (written os).length = (Tlv.encode os).length + 5 := by
  simp only [written, List.length_append, magicCookie_length, List.length_singleton]
  omega

/-- The packet is one that `dhcpd_initpacket` has begun, with the options that were accepted. -/
def Writer.Inv (w : Writer) : Prop := Room w.accepted ∧ ∃ g, Reply g w.g [0, 0, 0, 0] w.accepted

theorem Writer.Inv.init (mtype : Byte) (g : State) : (Writer.init mtype g).Inv := by
  have reply := initpacket_reply mtype g
  refine ⟨?_, g, ?_⟩
  · rw [Room, written_length]
    simp only [Writer.init, initOptions, Tlv.encode_cons, Tlv.encode_nil, List.length_append, Tlv.encodeOne_length, Mem.wordBytes_length,
      List.length_singleton, List.length_nil, optionsSize]
    omega
  · dsimp only [Writer.init]
    exact reply

theorem Writer.Inv.ends (inv : w.Inv) : ∃ optend, w.Ends optend := by
  obtain ⟨room, g, reply⟩ := inv
  rw [Room, written_length] at room
  obtain ⟨front, fin⟩ := Mem.holds_append.1 (List.append_assoc .. ▸ reply.area)
  have length : (magicCookie ++ Tlv.encode w.accepted).length = 4 + (Tlv.encode w.accepted).length := by
    rw [List.length_append, magicCookie_length]
  rw [length, ← Nat.add_assoc] at fin
  refine ⟨_, reply.optend, by omega, holds_byte.1 fin, ?_⟩
  have distance : Msg.options + 4 + (Tlv.encode w.accepted).length - Msg.options = (magicCookie ++ Tlv.encode w.accepted).length := by
    omega
  rw [distance]
  exact front.load_eq

/-- An option that there is room for is appended. -/
theorem Writer.Inv.append (inv : w.Inv) (room : Room (w.accepted ++ [o.1])) :
    Writer.Inv ⟨(dhcpdAddoption (Tlv.encodeOne o.1) w.g).2, w.accepted ++ [o.1]⟩ := by
  obtain ⟨-, g, reply⟩ := inv
  exact ⟨room, g, reply.addoption rfl o.2⟩

/-- One that there is no room for is appended all the same. -/
theorem Writer.Inv.changes (inv : w.Inv) : (dhcpdAddoption (Tlv.encodeOne o.1) w.g).2 ≠ w.g := by
  obtain ⟨-, g, reply⟩ := inv
  intro same
  have moved := (reply.addoption rfl o.2).optend
  rw [same, reply.optend, Tlv.encode_append, List.length_append] at moved
  simp at moved

theorem Room.front {ps : List Tlv.Opt} (room : Room (os ++ ps)) : Room os := by
  rw [Room, written_length] at room ⊢
  rw [Tlv.encode_append, List.length_append] at room
  omega

/-! ## Runs -/

/-- A call fits where there is room for its option. -/
def Fits (o : AnyOption) (w : Writer) : Prop := Room (w.accepted ++ [o.1])

theorem step_eq (fits : Fits o w) :
    w.step o = .ok (⟨(dhcpdAddoption (Tlv.encodeOne o.1) w.g).2, w.accepted ++ [o.1]⟩, (dhcpdAddoption (Tlv.encodeOne o.1) w.g).1) := by
  have room : Room (w.accepted ++ [o.1]) := fits
  rw [Writer.step, if_pos room]

theorem step_iff (o : AnyOption) (inv : w.Inv) : (∃ w' n, w.step o = .ok (w', n) ∧ Keeps ⟨w, o, w', n⟩) ↔ Fits o w := by
  constructor
  · rintro ⟨w', n, answered, keeps⟩
    cases answered
    by_contra full
    exact inv.changes (keeps.unchanged full)
  · intro fits
    exact ⟨_, _, step_eq fits, (inv.append fits).ends, fun full => absurd fits full⟩

theorem step_keep (inv : w.Inv) (fits : Fits o w) (answered : w.step o = .ok (w', n)) : w'.Inv := by
  cases answered.symm.trans (step_eq fits)
  exact inv.append fits

/-- Each option fits where all of them together do. -/
theorem along_iff {options : List AnyOption} (room : Room w.accepted) :
    Along Fits Writer.step options w ↔ Room (w.accepted ++ options.map Subtype.val) := by
  induction options generalizing w with
  | nil =>
    rw [List.map_nil, List.append_nil]
    exact iff_of_true trivial room
  | cons o options ih =>
    rw [Along, List.map_cons, ← List.singleton_append, ← List.append_assoc]
    constructor
    · rintro ⟨fits, rest⟩
      have room : Room (Writer.accepted ⟨(dhcpdAddoption (Tlv.encodeOne o.1) w.g).2, w.accepted ++ [o.1]⟩) := fits
      exact (ih room).1 (rest _ _ (step_eq fits))
    · intro all
      have fits : Fits o w := all.front
      refine ⟨fits, fun w' n answered => ?_⟩
      cases answered.symm.trans (step_eq fits)
      have room : Room (Writer.accepted ⟨(dhcpdAddoption (Tlv.encodeOne o.1) w.g).2, w.accepted ++ [o.1]⟩) := fits
      exact (ih room).2 all

theorem run_iff (mtype : Byte) (g : State) (options : List AnyOption) :
    (∃ cs w, exec Writer.step options (.init mtype g) = .ok (cs, w) ∧ ∀ c ∈ cs, Keeps c) ↔
      Room (initOptions mtype g.serverip ++ options.map Subtype.val) := by
  have start := Writer.Inv.init mtype g
  exact (exec_along_iff (fun o _ inv => step_iff o inv) (fun _ _ _ _ inv fits answered => step_keep inv fits answered) start).trans
    (along_iff start.1)

/-- **The option writer**: behind `dhcpd_initpacket` and behind each of the calls the options end inside of those of
the message, with the END behind the options that were accepted, and what does not fit changes nothing, exactly if
all options together fit. -/
theorem options_iff (mtype : Byte) (g : State) (options : List AnyOption) :
    ((∃ optend, (Writer.init mtype g).Ends optend) ∧
        ∃ cs w, exec Writer.step options (.init mtype g) = .ok (cs, w) ∧ ∀ c ∈ cs, Keeps c) ↔
      Room (initOptions mtype g.serverip ++ options.map Subtype.val) := by
  rw [and_iff_right (Writer.Inv.init mtype g).ends]
  exact run_iff mtype g options

/-- An option with 255 bytes of data. -/
def longOption : AnyOption := ⟨(1, List.replicate 255 0), (List.length_replicate ..).trans_lt (Nat.lt_succ_self 255)⟩

/-- There is no room for two of them. -/
theorem longOptions_written :
    ¬ ∀ mtype g options, ∃ cs w, exec Writer.step options (.init mtype g) = .ok (cs, w) ∧ ∀ c ∈ cs, Keeps c := by
  intro all
  have room := (run_iff _ _ _).1 (all 0 ⟨0, fun _ => 0, fun _ => 0, .default, none, []⟩ [longOption, longOption])
  rw [Room, written_length] at room
  simp only [initOptions, longOption, List.map_cons, List.map_nil, List.cons_append, List.nil_append, Tlv.encode_cons, Tlv.encode_nil,
    List.length_append, Tlv.encodeOne_length, List.length_replicate, List.length_nil, optionsSize] at room
  omega

end ArtikSdk.Dhcp.Server.OptionWriter
