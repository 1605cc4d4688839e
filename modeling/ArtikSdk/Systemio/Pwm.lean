import ArtikSdk.Base.Error
import ArtikSdk.Lib.Run
import ArtikSdk.Lib.Traced

/-!
# Pulse width modulation on Linux

`linux_pwm.c` behind `artik_pwm.c`, for one pin; pins share nothing. A channel has an array of descriptors,
one for each file of the pin, that `malloc` leaves as it finds it. The outcomes are those of `open`, `write` and
`close`; the memory that is asked for on the way is there.
-/

namespace ArtikSdk.Systemio.Pwm
open Lib

/-- `artik_pwm_path_index_t` -/
inductive PathIndex where
  | exp
  | uexp
  | enb
  | cycl
  | perd
  | polr
deriving DecidableEq

/-- The indices from `ARTIK_PWM_ENB` to below `len`. -/
def fromEnb (len : Nat) : List PathIndex := ([.exp, .uexp, .enb, .cycl, .perd, .polr].take len).drop 2

/-- `TAB_SIZE(tab_value_path)` -/
def tabSize : Nat := 6

/-- `artik_pwm_user_data_t`; a descriptor that was never set is indeterminate. -/
structure UserData where
  fd : PathIndex → Option Int
  chip : UInt32
  port : UInt32

/-- The use of a descriptor that was never set. -/
inductive Fault where
  | indeterminate
deriving DecidableEq

/-- `artik_error`, with two codes that only `write` leads to. -/
inductive Result where
  | code (e : ArtikError)
  | tryAgain
  | overflow
deriving DecidableEq

/-- `errno` behind `write` -/
inductive Errno where
  | einval
  | ebadf
  | enospc
  | edestaddrreq
  | eagain
  | efbig
  | eintr
  | epipe
  | eio
  | other
deriving DecidableEq

/-- What is done with a descriptor. -/
inductive Event where
  | opened (path : String) (fd : Int)
  | wrote (fd : Int) (value : String)
  | closed (fd : Int)
deriving DecidableEq

/-- `artik_pwm_config` -/
structure Config where
  pinNum : UInt32
  period : UInt32
  dutyCycle : UInt32
  polarity : UInt32

/-! ## Outcomes -/

/-- The outcomes in `os_pwm_uexport`. -/
structure Exporting where
  opens : Option Nat
  write : Option Errno
  closes : Bool

/-- The outcomes where a value is set: of switching off, of the value, and of switching on. -/
structure Setting where
  off : Option Errno
  value : Option Errno
  on : Option Errno

/-- The outcomes in `os_pwm_release`. -/
structure Releasing where
  dutyCycle : Setting
  enable : Option Errno
  uexp : Exporting

/-- The outcomes in `os_pwm_request`. -/
structure Requesting where
  exp : Exporting
  opens : PathIndex → Option Nat
  enable : Option Errno
  polarity : Setting
  period : Setting
  dutyCycle : Setting
  release : Releasing

/-! ## linux_pwm.c -/

/-- `tab_value_path` -/
def tabValuePath (ifd : PathIndex) (chip port : UInt32) : String :=
  match ifd with
  | .exp => s!"/sys/class/pwm/pwmchip{chip}/export"
  | .uexp => s!"/sys/class/pwm/pwmchip{chip}/unexport"
  | .enb => s!"/sys/class/pwm/pwmchip{chip}/pwm{port}/enable"
  | .cycl => s!"/sys/class/pwm/pwmchip{chip}/pwm{port}/duty_cycle"
  | .perd => s!"/sys/class/pwm/pwmchip{chip}/pwm{port}/period"
  | .polr => s!"/sys/class/pwm/pwmchip{chip}/pwm{port}/polarity"

def Errno.result : Errno → Result
  | .einval => .code .invalidValue
  | .ebadf | .enospc => .code .badArgs
  | .edestaddrreq => .code .notInitialized
  | .eagain => .tryAgain
  | .efbig => .overflow
  | .eintr | .epipe => .code .interrupted
  | .eio => .code .busy
  | .other => .code .noMem

def osPwmOn : String := "1"

def osPwmOff : String := "0"

/-- `user_data->fd[ifd]` -/
def UserData.get (data : UserData) (ifd : PathIndex) : Traced Fault Event Int :=
  quiet (match data.fd ifd with
    | none => .error .indeterminate
    | some fd => .ok fd)

/-- `user_data->fd[ifd] = fd` -/
def UserData.put (data : UserData) (ifd : PathIndex) (fd : Int) : UserData := { data with fd := Function.update data.fd ifd (some fd) }

def told (w : Option Errno) : Result :=
  match w with
  | none => .code .ok
  | some e => e.result

def osPwmIoctl (data : UserData) (ifd : PathIndex) (value : String) (w : Option Errno) : Traced Fault Event Result := do
  let fd ← data.get ifd
  touch (.wrote fd value)
  return told w

def osPwmOpen (data : UserData) (ifd : PathIndex) (opens : Option Nat) : Traced Fault Event UserData := do
  match opens with
  | none => return data.put ifd (-1)
  | some fd =>
    touch (.opened (tabValuePath ifd data.chip data.port) fd)
    return data.put ifd fd

/-- `os_pwm_uexport` closes the descriptor also if there is none, and does not if nothing could be written. -/
def osPwmUexport (data : UserData) (ifd : PathIndex) (x : Exporting) : Traced Fault Event (UserData × Result) := do
  let data ← osPwmOpen data ifd x.opens
  let fd ← data.get ifd
  let res ← if fd ≥ 0 then osPwmIoctl data ifd (toString data.port) x.write else pure (.code .ok)
  if res ≠ .code .ok then return (data, res)
  touch (.closed fd)
  -- -1 is `E_BAD_ARGS`
  return (data, if fd ≥ 0 ∧ x.closes then .code .ok else .code .badArgs)

/-- The loop of `os_pwm_init`. -/
def openEach (opens : PathIndex → Option Nat) : List PathIndex → UserData → Traced Fault Event (UserData × Result)
  | [], data => return (data, .code .ok)
  | i :: is, data => do
    let data ← osPwmOpen data i (opens i)
    let fd ← data.get i
    if fd < 0 then return (data, .code .badArgs)
    openEach opens is data

def osPwmInit (config : Config) (x : Requesting) : Traced Fault Event (UserData × Result) := do
  let data : UserData := ⟨fun _ => none, ((config.pinNum &&& 0xff00) >>> 8) &&& 0xff, config.pinNum &&& 0xff⟩
  let (data, res) ← osPwmUexport data .exp x.exp
  if res ≠ .code .ok then return (data, .code .busy)
  openEach x.opens (fromEnb tabSize) data

/-- The loop of `os_pwm_clean`. -/
def closeEach (data : UserData) : List PathIndex → Traced Fault Event Unit
  | [] => return ()
  | i :: is => do
    let fd ← data.get i
    if fd ≠ -1 then touch (.closed fd)
    closeEach data is

def osPwmClean (data : UserData) : Traced Fault Event Result := do
  closeEach data (fromEnb (tabSize - 1))
  return .code .ok

def osPwmEnable (data : UserData) (value : String) (w : Option Errno) : Traced Fault Event Result := osPwmIoctl data .enb value w

/-- What the setters share: the channel is off while the value is written. -/
def setOff (data : UserData) (ifd : PathIndex) (value : String) (w : Setting) : Traced Fault Event Result := do
  let res ← osPwmEnable data osPwmOff w.off
  if res ≠ .code .ok then return .code .busy
  let res ← osPwmIoctl data ifd value w.value
  let _ ← osPwmEnable data osPwmOn w.on
  return res

def osPwmSetPeriod (data : UserData) (value : UInt32) (w : Setting) : Traced Fault Event Result := setOff data .perd (toString value) w

/-- `ARTIK_PWM_POLR_NORMAL` is 0, and `ARTIK_PWM_POLR_INVERT` is 1. -/
def osPwmSetPolarity (data : UserData) (value : UInt32) (w : Setting) : Traced Fault Event Result :=
  if value = 0 then setOff data .polr "normal" w
  else if value = 1 then setOff data .polr "inversed" w
  else return .code .busy

def osPwmSetDutyCycle (data : UserData) (value : UInt32) (w : Setting) : Traced Fault Event Result := setOff data .cycl (toString value) w

/-- `res = (res == S_OK ? y : res)` -/
def onOk (x y : Traced Fault Event Result) : Traced Fault Event Result := do
  let res ← x
  if res = .code .ok then y else return res

def osPwmRelease (data : UserData) (w : Releasing) : Traced Fault Event Result := do
  let res ← onOk (osPwmSetDutyCycle data 0 w.dutyCycle) (osPwmEnable data osPwmOff w.enable)
  if res = .code .ok then
    let (data, _) ← osPwmUexport data .uexp w.uexp
    osPwmClean data
  else osPwmClean data

/-- What a request sets on a channel. -/
def configure (config : Config) (data : UserData) (x : Requesting) : Traced Fault Event Result :=
  let dutyCycle := if config.dutyCycle = 0 then config.period / 2 else config.dutyCycle
  onOk (onOk (onOk (osPwmEnable data osPwmOn x.enable) (osPwmSetPolarity data config.polarity x.polarity))
    (osPwmSetPeriod data config.period x.period)) (osPwmSetDutyCycle data dutyCycle x.dutyCycle)

/-- The end of `os_pwm_request`: the channel, if there is one. -/
def conclude (data : UserData) (x : Requesting) (res : Result) : Traced Fault Event (Option UserData × Result) := do
  if res ≠ .code .ok then
    let _ ← osPwmRelease data x.release
    return (none, .code .badArgs)
  return (some data, res)

def osPwmRequest (config : Config) (x : Requesting) : Traced Fault Event (Option UserData × Result) := do
  let (data, res) ← osPwmInit config x
  let res ← if res = .code .ok then configure config data x else pure res
  conclude data x res

/-! ## artik_pwm.c -/

inductive Op where
  | request (node : Bool) (config : Config) (x : Requesting)
  | release (w : Releasing)
  | enable (w : Option Errno)
  | disable (w : Option Errno)
  | setPeriod (value : UInt32) (w : Setting)
  | setPolarity (value : UInt32) (w : Setting)
  | setDutyCycle (value : UInt32) (w : Setting)

/-- What a call does with the channel of its pin. -/
def Op.serve (op : Op) (data : UserData) : Traced Fault Event Result :=
  match op with
  | .request .. => return .code .busy
  | .release w => osPwmRelease data w
  | .enable w => osPwmEnable data osPwmOn w
  | .disable w => osPwmEnable data osPwmOff w
  | .setPeriod value w => osPwmSetPeriod data value w
  | .setPolarity value w => osPwmSetPolarity data value w
  | .setDutyCycle value w => osPwmSetDutyCycle data value w

/-- A call on the channel of the pin, and the channel that it leaves. -/
def Op.call (op : Op) (channel : Option UserData) : Traced Fault Event (Option UserData × Result) :=
  match channel with
  | none =>
    match op with
    | .request node config x => if node then osPwmRequest config x else return (none, .code .noMem)
    | _ => return (none, .code .badArgs)
  | some data => do
    let res ← op.serve data
    match op with
    | .release _ => return (if res = .code .ok then none else some data, res)
    | _ => return (some data, res)

/-! ## The descriptors -/

/-- The descriptors after what is done with one; a write or a close of one that is not there is astray. -/
def Event.follow (fds : Multiset Int) : Event → Option (Multiset Int)
  | .opened _ fd => some (fds + {fd})
  | .wrote fd _ => if fd ∈ fds then some fds else none
  | .closed fd => if fd ∈ fds then some (fds - {fd}) else none

def follow (events : List Event) (fds : Multiset Int) : Option (Multiset Int) := events.foldlM Event.follow fds

/-- The channel, and the descriptors that are opened and not closed. -/
structure Registry where
  channel : Option UserData
  fds : Multiset Int

def Registry.init : Registry := ⟨none, 0⟩

structure Output where
  result : Result
  events : List Event
deriving DecidableEq

def Registry.step (op : Op) (r : Registry) : Except Fault (Registry × Output) :=
  let c := op.call r.channel
  c.result.map fun p => (⟨p.1, (follow c.touches r.fds).getD r.fds⟩, ⟨p.2, c.touches⟩)

/-- **The law of a call**: it writes to and closes descriptors only that are there, and none is left without a channel. -/
structure Keeps (c : Call Op Registry Output) : Prop where
  astray : follow c.output.events c.before.fds = some c.after.fds
  closed : c.after.channel = none → c.after.fds = 0

def Exporting.Done (x : Exporting) : Prop := x.opens.isSome ∧ x.write = none ∧ x.closes = true

def Setting.Done (w : Setting) : Prop := w.off = none ∧ w.value = none

/-- A release does not come to `unexport`, or opens it and writes to it. -/
def Releasing.Clean (w : Releasing) : Prop :=
  w.dutyCycle.Done ∧ w.enable = none → w.uexp.opens.isSome ∧ w.uexp.write = none

/-- Everything is set. -/
def Requesting.Set (config : Config) (x : Requesting) : Prop :=
  ((x.enable = none ∧ (config.polarity = 0 ∨ config.polarity = 1) ∧ x.polarity.Done) ∧ x.period.Done) ∧ x.dutyCycle.Done

/-- The pin is exported, and its first two files are opened; if the other two are opened too, everything is set, and
if not, the release is clean. -/
def Requesting.Fits (config : Config) (x : Requesting) : Prop :=
  x.exp.Done ∧ (x.opens .enb).isSome ∧ (x.opens .cycl).isSome ∧
    if (x.opens .perd).isSome ∧ (x.opens .polr).isSome then x.Set config else x.release.Clean

/-- A channel is not released, and a request for a new one fits. -/
def Fits (op : Op) (r : Registry) : Prop :=
  match op with
  | .request node config x => node = true → r.channel = none → x.Fits config
  | .release _ => r.channel = none
  | _ => True

/-! ## Writes -/

variable {data : UserData} {fds fds' : Multiset Int} {events events' : List Event} {i : PathIndex} {e fd : Int} {w : Option Errno}
  {s : Setting} {x y : Traced Fault Event Result} {P Q : Prop} {value : String}

theorem follow_append : follow (events ++ events') fds = (follow events fds).bind (follow events') := List.foldlM_append

theorem told_ok_iff : told w = .code .ok ↔ w = none := by
  cases w with
  | none => exact iff_of_true rfl rfl
  | some e => cases e <;> exact iff_of_false nofun nofun

/-- The computation returns, has written only to descriptors that are there, and succeeds as told. -/
def Writes (x : Traced Fault Event Result) (fds : Multiset Int) (P : Prop) : Prop :=
  ∃ res events, x = ⟨.ok res, events⟩ ∧ follow events fds = some fds ∧ (res = .code .ok ↔ P)

theorem get_eq (here : data.fd i = some fd) : data.get i = ⟨.ok fd, []⟩ := by
  rw [UserData.get, here]
  rfl

@[simp]
theorem put_self : (data.put i fd).fd i = some fd := Function.update_self ..

theorem put_of_ne {j : PathIndex} (other : j ≠ i) : (data.put i fd).fd j = data.fd j := Function.update_of_ne other ..

theorem ioctl_eq (here : data.fd i = some fd) : osPwmIoctl data i value w = ⟨.ok (told w), [.wrote fd value]⟩ := by
  rw [osPwmIoctl, get_eq here]
  rfl

theorem follow_wrote (inside : fd ∈ fds) : follow (.wrote fd value :: events) fds = follow events fds := by
  rw [follow, List.foldlM_cons, Event.follow, if_pos inside]
  rfl

theorem ioctl_writes (here : data.fd i = some fd) (inside : fd ∈ fds) : Writes (osPwmIoctl data i value w) fds (w = none) :=
  ⟨told w, [.wrote fd value], ioctl_eq here, follow_wrote inside, told_ok_iff⟩

theorem enable_writes (enb : data.fd .enb = some e) (inside : e ∈ fds) : Writes (osPwmEnable data value w) fds (w = none) :=
  ioctl_writes enb inside

/-- **Sequence rule** -/
theorem onOk_writes (first : Writes x fds P) (second : Writes y fds Q) : Writes (onOk x y) fds (P ∧ Q) := by
  obtain ⟨res, events, rfl, legal, ok⟩ := first
  obtain ⟨res', events', rfl, legal', ok'⟩ := second
  by_cases good : res = .code .ok
  · refine ⟨res', events ++ events', ?_, ?_, ?_⟩
    · rw [good]
      rfl
    · rw [follow_append, legal]
      exact legal'
    · rw [ok', and_iff_right (ok.1 good)]
  · refine ⟨res, events, ?_, legal, ?_⟩
    · rw [onOk, ok_touches_bind, if_neg good]
      exact congrArg _ (List.append_nil _)
    · exact iff_of_false good fun both => good (ok.2 both.1)

theorem setOff_writes (enb : data.fd .enb = some e) (here : data.fd i = some fd) (inside : e ∈ fds) (inside' : fd ∈ fds) :
    Writes (setOff data i value s) fds s.Done := by
  have off : osPwmEnable data osPwmOff s.off = ⟨.ok (told s.off), [.wrote e osPwmOff]⟩ := ioctl_eq enb
  have on : osPwmEnable data osPwmOn s.on = ⟨.ok (told s.on), [.wrote e osPwmOn]⟩ := ioctl_eq enb
  rw [setOff, off, on, ioctl_eq here]
  by_cases good : told s.off = .code .ok
  · refine ⟨told s.value, [.wrote e osPwmOff, .wrote fd value, .wrote e osPwmOn], ?_, ?_, ?_⟩
    · rw [good]
      rfl
    · rw [follow_wrote inside, follow_wrote inside', follow_wrote inside]
      rfl
    · rw [told_ok_iff, Setting.Done, and_iff_right (told_ok_iff.1 good)]
  · refine ⟨.code .busy, [.wrote e osPwmOff], ?_, follow_wrote inside, ?_⟩
    · rw [ok_touches_bind, if_pos good]
      rfl
    · exact iff_of_false nofun fun both => good (told_ok_iff.2 both.1)

theorem setPolarity_writes {polarity : UInt32} (enb : data.fd .enb = some e) (here : data.fd .polr = some fd) (inside : e ∈ fds)
    (inside' : fd ∈ fds) : Writes (osPwmSetPolarity data polarity s) fds ((polarity = 0 ∨ polarity = 1) ∧ s.Done) := by
  rw [osPwmSetPolarity]
  by_cases normal : polarity = 0
  · rw [if_pos normal, and_iff_right (Or.inl normal)]
    exact setOff_writes enb here inside inside'
  · rw [if_neg normal]
    by_cases inversed : polarity = 1
    · rw [if_pos inversed, and_iff_right (Or.inr inversed)]
      exact setOff_writes enb here inside inside'
    · rw [if_neg inversed]
      exact ⟨.code .busy, [], rfl, rfl, iff_of_false nofun fun both => both.1.elim normal inversed⟩

/-! ## Channels -/

/-- The descriptors of a channel that is open. -/
def Opened (data : UserData) (fds : Multiset Int) : Prop :=
  ∃ enb cycl perd polr : Nat, data.fd .enb = some enb ∧ data.fd .cycl = some cycl ∧ data.fd .perd = some perd ∧
    data.fd .polr = some polr ∧ fds = {(enb : Int)} + {(cycl : Int)} + {(perd : Int)} + {(polr : Int)}

theorem configure_writes (config : Config) (x : Requesting) (opened : Opened data fds) :
    Writes (configure config data x) fds (x.Set config) := by
  obtain ⟨enb, cycl, perd, polr, enb', cycl', perd', polr', rfl⟩ := opened
  refine onOk_writes (onOk_writes (onOk_writes (enable_writes enb' ?_) (setPolarity_writes enb' polr' ?_ ?_))
    (setOff_writes enb' perd' ?_ ?_)) (setOff_writes enb' cycl' ?_ ?_)
  all_goals simp

/-! ## Release -/

theorem follow_closed (inside : fd ∈ fds) : follow (.closed fd :: events) fds = follow events (fds - {fd}) := by
  rw [follow, List.foldlM_cons, Event.follow, if_pos inside]
  rfl

theorem follow_closed_astray (outside : fd ∉ fds) : follow (.closed fd :: events) fds = none := by
  rw [follow, List.foldlM_cons, Event.follow, if_neg outside]
  rfl

theorem follow_opened {path : String} : follow (.opened path fd :: events) fds = follow events (fds + {fd}) := rfl

theorem open_none : osPwmOpen data i none = ⟨.ok (data.put i (-1)), []⟩ := rfl

theorem open_some {u : Nat} : osPwmOpen data i (some u) = ⟨.ok (data.put i u), [.opened (tabValuePath i data.chip data.port) u]⟩ := rfl

/-- What `os_pwm_uexport` returns, and what it does with descriptors. -/
theorem uexport_eq {x : Exporting} :
    osPwmUexport data i x =
      match x.opens with
      | none => ⟨.ok (data.put i (-1), .code .badArgs), [.closed (-1)]⟩
      | some u =>
        let front := [.opened (tabValuePath i data.chip data.port) u, .wrote u (toString data.port)]
        if x.write = none then ⟨.ok (data.put i u, if x.closes then .code .ok else .code .badArgs), front ++ [.closed u]⟩
        else ⟨.ok (data.put i u, told x.write), front⟩ := by
  rw [osPwmUexport]
  cases x.opens with
  | none =>
    rw [open_none, ok_touches_bind, get_eq put_self]
    rfl
  | some u =>
    have there : (u : Int) ≥ 0 := Int.natCast_nonneg u
    rw [open_some, ok_touches_bind, get_eq put_self, ok_touches_bind, if_pos there, ioctl_eq put_self, ok_touches_bind]
    dsimp only
    by_cases written : x.write = none
    · rw [if_pos written, if_neg (not_not.2 (told_ok_iff.2 written))]
      simp only [there, true_and]
      rfl
    · rw [if_neg written, if_pos fun ok => written (told_ok_iff.1 ok)]
      rfl

/-- `os_pwm_uexport` leaves no descriptor behind where the file is opened and written to, and only there. -/
theorem uexport_follow (data : UserData) (i : PathIndex) (x : Exporting) (outside : (-1 : Int) ∉ fds) :
    ∃ fd res events, osPwmUexport data i x = ⟨.ok (data.put i fd, res), events⟩ ∧ (res = .code .ok ↔ x.Done) ∧
      if x.opens.isSome ∧ x.write = none then follow events fds = some fds
      else follow events fds = none ∨ ∃ u, follow events fds = some (fds + {u}) := by
  rw [uexport_eq, Exporting.Done]
  cases x.opens with
  | none => exact ⟨_, _, _, rfl, by simp, by simp [follow_closed_astray outside]⟩
  | some u =>
    have inside : (u : Int) ∈ fds + {(u : Int)} := by simp
    dsimp only
    by_cases written : x.write = none
    · rw [if_pos written]
      refine ⟨_, _, _, rfl, by cases x.closes <;> simp [written], ?_⟩
      rw [if_pos ⟨rfl, written⟩]
      show follow [.opened _ _, .wrote _ _, .closed _] fds = _
      rw [follow_opened, follow_wrote inside, follow_closed inside, add_tsub_cancel_right]
      rfl
    · rw [if_neg written]
      refine ⟨_, _, _, rfl, by simp [told_ok_iff, written], ?_⟩
      rw [if_neg fun both => written both.2, follow_opened, follow_wrote inside]
      exact Or.inr ⟨u, rfl⟩

/-- The loop of `os_pwm_clean` closes what is not -1. -/
theorem closeEach_eq {f : PathIndex → Int} {is : List PathIndex} (known : ∀ i ∈ is, data.fd i = some (f i)) :
    closeEach data is = ⟨.ok (), ((is.map f).filter (· ≠ -1)).map .closed⟩ := by
  induction is with
  | nil => rfl
  | cons i is ih =>
    rw [List.forall_mem_cons] at known
    rw [closeEach, get_eq known.1, ok_touches_bind, ih known.2, List.map_cons]
    by_cases failed : f i = -1
    · rw [if_neg (not_not.2 failed), List.filter_cons_of_neg (by simp [failed])]
      rfl
    · rw [if_pos failed, List.filter_cons_of_pos (by simp [failed])]
      rfl

theorem follow_closes {closes : List Int} {rest : Multiset Int} : follow (closes.map .closed) (↑closes + rest) = some rest := by
  induction closes with
  | nil => exact congrArg some (zero_add rest)
  | cons fd closes ih =>
    rw [List.map_cons, follow_closed (by simp), ← Multiset.cons_coe, Multiset.cons_add, ← Multiset.singleton_add, add_tsub_cancel_left, ih]

/-- What `os_pwm_clean` closes. -/
def cleaned (f : PathIndex → Int) : List Int := ((fromEnb (tabSize - 1)).map f).filter (· ≠ -1)

theorem clean_eq {f : PathIndex → Int} (known : ∀ i ∈ fromEnb (tabSize - 1), data.fd i = some (f i)) :
    osPwmClean data = ⟨.ok (.code .ok), (cleaned f).map .closed⟩ := by
  rw [osPwmClean, closeEach_eq known, ok_touches_bind]
  exact congrArg _ (List.append_nil _)

/-- **A release** of a channel leaves nothing behind just if it is clean and there is nothing but what it closes. -/
theorem release_follow {f : PathIndex → Int} {rest : Multiset Int} {w : Releasing}
    (known : ∀ i ∈ fromEnb (tabSize - 1), data.fd i = some (f i)) (enb : 0 ≤ f .enb) (cycl : 0 ≤ f .cycl) (outside : (-1 : Int) ∉ rest) :
    ∃ events, osPwmRelease data w = ⟨.ok (.code .ok), events⟩ ∧ (follow events (↑(cleaned f) + rest) = some 0 ↔ w.Clean ∧ rest = 0) := by
  have inside {i : PathIndex} (member : i ∈ fromEnb (tabSize - 1)) (there : 0 ≤ f i) : f i ∈ ↑(cleaned f) + rest := by
    refine Multiset.mem_add.2 (Or.inl (List.mem_filter.2 ⟨List.mem_map_of_mem member, decide_eq_true ?_⟩))
    omega
  have away : (-1 : Int) ∉ ↑(cleaned f) + rest := fun member =>
    (Multiset.mem_add.1 member).elim (fun kept => of_decide_eq_true (List.mem_filter.1 kept).2 rfl) outside
  have first : PathIndex.enb ∈ fromEnb (tabSize - 1) := by decide
  have second : PathIndex.cycl ∈ fromEnb (tabSize - 1) := by decide
  have sets : Writes (onOk (osPwmSetDutyCycle data 0 w.dutyCycle) (osPwmEnable data osPwmOff w.enable)) (↑(cleaned f) + rest)
      (w.dutyCycle.Done ∧ w.enable = none) :=
    onOk_writes (setOff_writes (known _ first) (known _ second) (inside first enb) (inside second cycl))
      (enable_writes (known _ first) (inside first enb))
  obtain ⟨res, events, same, legal, ok⟩ := sets
  rw [osPwmRelease, same, ok_touches_bind]
  by_cases reached : res = .code .ok
  · obtain ⟨fd, res', events', same', -, exports⟩ := uexport_follow data .uexp w.uexp away
    have known' : ∀ i ∈ fromEnb (tabSize - 1), (data.put .uexp fd).fd i = some (f i) := by
      intro i member
      rw [put_of_ne (by rintro rfl; revert member; decide)]
      exact known i member
    rw [if_pos reached, same', ok_touches_bind]
    dsimp only
    rw [clean_eq known']
    refine ⟨_, rfl, ?_⟩
    have clean : w.Clean ↔ w.uexp.opens.isSome ∧ w.uexp.write = none := ⟨fun clean => clean (ok.1 reached), fun good _ => good⟩
    rw [follow_append, legal, Option.bind_some, follow_append, clean]
    by_cases good : w.uexp.opens.isSome ∧ w.uexp.write = none
    · rw [if_pos good] at exports
      rw [exports, Option.bind_some, follow_closes, Option.some_inj, and_iff_right good]
    · rw [if_neg good] at exports
      refine iff_of_false ?_ fun both => good both.1
      obtain astray | ⟨u, leaked⟩ := exports
      · rw [astray]
        nofun
      · rw [leaked, Option.bind_some, add_assoc, follow_closes, Option.some_inj]
        simp
  · rw [if_neg reached, clean_eq known]
    refine ⟨_, rfl, ?_⟩
    have clean : w.Clean := fun both => absurd (ok.2 both) reached
    rw [follow_append, legal, Option.bind_some, follow_closes, Option.some_inj, and_iff_right clean]

/-- The descriptors that a release closes. -/
def filled (enb cycl perd : Int) : PathIndex → Int
  | .enb => enb
  | .cycl => cycl
  | _ => perd

theorem cleaned_filled (enb cycl perd : Nat) : cleaned (filled enb cycl perd) = [(enb : Int), (cycl : Int), (perd : Int)] := by
  simp [cleaned, fromEnb, tabSize, filled]

/-- A release never closes the file of the polarity. -/
theorem opened_release {w : Releasing} (opened : Opened data fds) :
    ∃ events, osPwmRelease data w = ⟨.ok (.code .ok), events⟩ ∧ follow events fds ≠ some 0 := by
  obtain ⟨e, c, p, l, enb, cycl, perd, polr, rfl⟩ := opened
  have known : ∀ i ∈ fromEnb (tabSize - 1), data.fd i = some (filled e c p i) := by simp [fromEnb, tabSize, filled, enb, cycl, perd]
  have away : (-1 : Int) ∉ ({(l : Int)} : Multiset Int) := by simp
  obtain ⟨events, released, clean⟩ := release_follow (w := w) known (Int.natCast_nonneg e) (Int.natCast_nonneg c) away
  refine ⟨events, released, fun closed => ?_⟩
  rw [cleaned_filled] at clean
  exact Multiset.singleton_ne_zero _ (clean.1 closed).2

theorem closeEach_faults {is : List PathIndex} (member : i ∈ is) (unset : data.fd i = none) :
    ¬ ∃ a, (closeEach data is).result = .ok a := by
  induction is with
  | nil => cases member
  | cons j is ih =>
    rintro ⟨a, closed⟩
    rw [closeEach, bind_result] at closed
    obtain ⟨fd, got, rest⟩ := bind_ok_iff.1 closed
    cases member with
    | head =>
      rw [UserData.get, unset] at got
      cases got
    | tail _ member =>
      dsimp only at rest
      split at rest
      · exact ih member ⟨a, rest⟩
      · exact ih member ⟨a, rest⟩

/-- A release reads all descriptors that it is to close. -/
theorem release_faults {w : Releasing} (member : i ∈ fromEnb (tabSize - 1)) (unset : data.fd i = none) :
    ¬ ∃ a, (osPwmRelease data w).result = .ok a := by
  have clean {data : UserData} (unset : data.fd i = none) : ¬ ∃ a, (osPwmClean data).result = .ok a := by
    rintro ⟨a, cleaned⟩
    obtain ⟨b, closed, -⟩ := bind_ok_iff.1 (bind_result.symm.trans cleaned)
    exact closeEach_faults member unset ⟨b, closed⟩
  rintro ⟨a, released⟩
  obtain ⟨res, -, rest⟩ := bind_ok_iff.1 (bind_result.symm.trans released)
  by_cases reached : res = .code .ok
  · obtain ⟨fd, res', events, same, -⟩ := uexport_follow data .uexp w.uexp (Multiset.notMem_zero (-1))
    rw [if_pos reached, same, ok_touches_bind] at rest
    have unset' : (data.put .uexp fd).fd i = none := by
      rw [put_of_ne (by rintro rfl; revert member; decide), unset]
    exact clean unset' ⟨a, rest⟩
  · rw [if_neg reached] at rest
    exact clean unset ⟨a, rest⟩

/-! ## Requests -/

variable {config : Config} {x : Requesting} {res : Result} {opens : PathIndex → Option Nat}

theorem openEach_some {is : List PathIndex} {u : Nat} (here : opens i = some u) :
    openEach opens (i :: is) data =
      ⟨(openEach opens is (data.put i u)).result,
        .opened (tabValuePath i data.chip data.port) u :: (openEach opens is (data.put i u)).touches⟩ := by
  have there : ¬ (u : Int) < 0 := by omega
  rw [openEach, here, open_some, ok_touches_bind, get_eq put_self, ok_touches_bind, if_neg there]
  rfl

theorem openEach_none {is : List PathIndex} (here : opens i = none) :
    openEach opens (i :: is) data = ⟨.ok (data.put i (-1), .code .badArgs), []⟩ := by
  rw [openEach, here, open_none, ok_touches_bind, get_eq put_self]
  rfl

/-- How far `os_pwm_init` comes: a descriptor that the release closes was never set, or all of them were but the
channel is not complete, or it is. -/
inductive Begun (config : Config) (x : Requesting) : Prop where
  | lost (unfit : ¬ (x.exp.Done ∧ (x.opens .enb).isSome ∧ (x.opens .cycl).isSome)) (data : UserData) (res : Result) (events : List Event)
      (i : PathIndex) (init : osPwmInit config x = ⟨.ok (data, res), events⟩) (failed : res ≠ .code .ok)
      (member : i ∈ fromEnb (tabSize - 1)) (unset : data.fd i = none)
  | short (fit : x.exp.Done ∧ (x.opens .enb).isSome ∧ (x.opens .cycl).isSome)
      (incomplete : ¬ ((x.opens .perd).isSome ∧ (x.opens .polr).isSome)) (data : UserData) (res : Result) (events : List Event)
      (f : PathIndex → Int) (init : osPwmInit config x = ⟨.ok (data, res), events⟩) (failed : res ≠ .code .ok)
      (known : ∀ i ∈ fromEnb (tabSize - 1), data.fd i = some (f i)) (enb : 0 ≤ f .enb) (cycl : 0 ≤ f .cycl)
      (legal : follow events 0 = some ↑(cleaned f))
  | whole (fit : x.exp.Done ∧ (x.opens .enb).isSome ∧ (x.opens .cycl).isSome)
      (complete : (x.opens .perd).isSome ∧ (x.opens .polr).isSome) (data : UserData) (events : List Event) (fds : Multiset Int)
      (init : osPwmInit config x = ⟨.ok (data, .code .ok), events⟩) (legal : follow events 0 = some fds) (opened : Opened data fds)

theorem init_begun (config : Config) (x : Requesting) : Begun config x := by
  obtain ⟨fd, res, events, same, ok, exports⟩ :=
    uexport_follow ⟨fun _ => none, ((config.pinNum &&& 0xff00) >>> 8) &&& 0xff, config.pinNum &&& 0xff⟩ .exp x.exp
      (Multiset.notMem_zero (-1))
  have init : osPwmInit config x = ⟨.ok _, events⟩ >>= _ := congrArg (· >>= _) same
  rw [ok_touches_bind] at init
  dsimp only at init
  by_cases done : x.exp.Done
  · have legal : follow events 0 = some 0 := by rwa [if_pos ⟨done.1, done.2.1⟩] at exports
    rw [if_neg (not_not.2 (ok.2 done))] at init
    generalize started : UserData.put _ PathIndex.exp fd = start at init
    have blank {i : PathIndex} (other : i ≠ .exp) : start.fd i = none := by rw [← started, put_of_ne other]
    have all : fromEnb tabSize = [.enb, .cycl, .perd, .polr] := rfl
    have three : fromEnb (tabSize - 1) = [.enb, .cycl, .perd] := rfl
    rw [all] at init
    cases enb : x.opens .enb with
    | none =>
      rw [openEach_none enb] at init
      refine .lost (by simp [enb]) _ _ _ .cycl init nofun (by decide) ?_
      rw [put_of_ne (by decide), blank (by decide)]
    | some e =>
      rw [openEach_some enb] at init
      cases cycl : x.opens .cycl with
      | none =>
        rw [openEach_none cycl] at init
        refine .lost (by simp [cycl]) _ _ _ .perd init nofun (by decide) ?_
        rw [put_of_ne (by decide), put_of_ne (by decide), blank (by decide)]
      | some c =>
        have fit : x.exp.Done ∧ (x.opens .enb).isSome ∧ (x.opens .cycl).isSome := ⟨done, by rw [enb]; rfl, by rw [cycl]; rfl⟩
        rw [openEach_some cycl] at init
        cases perd : x.opens .perd with
        | none =>
          rw [openEach_none perd] at init
          refine .short fit (by simp [perd]) _ _ _ (filled e c (-1)) init nofun ?_ (Int.natCast_nonneg e) (Int.natCast_nonneg c) ?_
          · simp [three, put_of_ne, filled]
          · have kept : cleaned (filled e c (-1)) = [(e : Int), (c : Int)] := by simp [cleaned, three, filled]
            rw [follow_append, legal, kept]
            rfl
        | some p =>
          rw [openEach_some perd] at init
          cases polr : x.opens .polr with
          | none =>
            rw [openEach_none polr] at init
            refine .short fit (by simp [polr]) _ _ _ (filled e c p) init nofun ?_ (Int.natCast_nonneg e) (Int.natCast_nonneg c) ?_
            · simp [three, put_of_ne, filled]
            · rw [follow_append, legal, cleaned_filled]
              rfl
          | some l =>
            rw [openEach_some polr] at init
            refine .whole fit ⟨by rw [perd]; rfl, by rw [polr]; rfl⟩ _ _ ({(e : Int)} + {(c : Int)} + {(p : Int)} + {(l : Int)}) init ?_ ?_
            · rw [follow_append, legal]
              rfl
            · exact ⟨e, c, p, l, by simp [put_of_ne]⟩
  · rw [if_pos fun good => done (ok.1 good)] at init
    exact .lost (fun all => done all.1) _ _ _ .enb init nofun (by decide) rfl

theorem conclude_failed {r : Result} (failed : res ≠ .code .ok) (released : osPwmRelease data x.release = ⟨.ok r, events⟩) :
    conclude data x res = ⟨.ok (none, .code .badArgs), events⟩ := by
  rw [conclude, if_pos failed, released, ok_touches_bind]
  exact congrArg _ (List.append_nil _)

theorem request_failed (init : osPwmInit config x = ⟨.ok (data, res), events⟩) (failed : res ≠ .code .ok) :
    osPwmRequest config x = ⟨(conclude data x res).result, events ++ (conclude data x res).touches⟩ := by
  rw [osPwmRequest, init, ok_touches_bind]
  dsimp only
  rw [if_neg failed]
  rfl

theorem request_configured (init : osPwmInit config x = ⟨.ok (data, .code .ok), events⟩)
    (set : configure config data x = ⟨.ok res, events'⟩) :
    osPwmRequest config x = ⟨(conclude data x res).result, events ++ (events' ++ (conclude data x res).touches)⟩ := by
  rw [osPwmRequest, init, ok_touches_bind]
  dsimp only
  rw [if_pos rfl, set]
  rfl

/-- A call returns, goes to descriptors only that are there, and leaves the channel and the descriptors as required. -/
def Lawful (c : Traced Fault Event (Option UserData × Result)) (fds : Multiset Int) (Q : Option UserData → Multiset Int → Prop) : Prop :=
  ∃ p events fds', c = ⟨.ok p, events⟩ ∧ follow events fds = some fds' ∧ Q p.1 fds'

/-- No descriptor is left without a channel. -/
def Closed (channel : Option UserData) (fds : Multiset Int) : Prop := channel = none → fds = 0

/-- What is known of a channel. -/
def Known (channel : Option UserData) (fds : Multiset Int) : Prop :=
  match channel with
  | none => fds = 0
  | some data => Opened data fds

variable {c : Traced Fault Event (Option UserData × Result)}

/-- A call is lawful just where it fits, and then the channel is known. -/
structure Exact (c : Traced Fault Event (Option UserData × Result)) (fds : Multiset Int) (C : Prop) : Prop where
  fits : Lawful c fds Closed → C
  known : C → Lawful c fds Known

/-- A call that leaves no channel. -/
theorem exact_none (same : c = ⟨.ok (none, res), events⟩) (closes : follow events fds = some 0 ↔ P) : Exact c fds P where
  fits := by
    rintro ⟨p, events', fds', same', legal, closed⟩
    cases same.symm.trans same'
    rw [← closes, legal, closed rfl]
  known holds := ⟨_, _, 0, same, closes.2 holds, rfl⟩

/-- A call that keeps the channel, or leaves a new one. -/
theorem exact_some (same : c = ⟨.ok (some data, res), events⟩) (legal : follow events fds = some fds')
    (opened : Opened data fds') (holds : P) : Exact c fds P where
  fits _ := holds
  known _ := ⟨_, _, fds', same, legal, opened⟩

theorem fits_iff (fit : x.exp.Done ∧ (x.opens .enb).isSome ∧ (x.opens .cycl).isSome) :
    x.Fits config ↔ if (x.opens .perd).isSome ∧ (x.opens .polr).isSome then x.Set config else x.release.Clean :=
  ⟨fun fits => fits.2.2.2, fun fits => ⟨fit.1, fit.2.1, fit.2.2, fits⟩⟩

theorem request_exact (config : Config) (x : Requesting) : Exact (osPwmRequest config x) 0 (x.Fits config) := by
  cases init_begun config x with
  | lost unfit data res events i init failed member unset =>
    have never : ¬ x.Fits config := fun fits => unfit ⟨fits.1, fits.2.1, fits.2.2.1⟩
    refine ⟨?_, fun fits => absurd fits never⟩
    rintro ⟨p, events', fds', same, -⟩
    rw [request_failed init failed, conclude, if_pos failed] at same
    have returned := congrArg Traced.result same
    dsimp only at returned
    rw [bind_result] at returned
    obtain ⟨r, released, -⟩ := bind_ok_iff.1 returned
    exact absurd ⟨r, released⟩ (release_faults member unset)
  | short fit incomplete data res events f init failed known enb cycl legal =>
    obtain ⟨events', released, clean⟩ := release_follow (w := x.release) known enb cycl (Multiset.notMem_zero (-1))
    have same : osPwmRequest config x = ⟨.ok (none, .code .badArgs), events ++ events'⟩ := by
      rw [request_failed init failed, conclude_failed failed released]
    rw [add_zero, and_iff_left rfl] at clean
    apply exact_none same
    rw [follow_append, legal, Option.bind_some, clean, fits_iff fit, if_neg incomplete]
  | whole fit complete data events fds init legal opened =>
    obtain ⟨res, events', set, writes, ok⟩ := configure_writes config x opened
    rw [fits_iff fit, if_pos complete, ← ok]
    by_cases good : res = .code .ok
    · subst good
      refine exact_some (request_configured init set) ?_ opened rfl
      rw [follow_append, legal, Option.bind_some, follow_append, writes]
      rfl
    · obtain ⟨events'', released, left⟩ := opened_release (w := x.release) opened
      have same : osPwmRequest config x = ⟨.ok (none, .code .badArgs), events ++ (events' ++ events'')⟩ := by
        rw [request_configured init set, conclude_failed good released]
      apply exact_none same
      rw [follow_append, legal, Option.bind_some, follow_append, writes]
      exact iff_of_false left good

/-! ## Runs -/

variable {op : Op} {r r' : Registry} {o : Output}

/-- A setter only writes. -/
theorem setter_exact (op : Op) (opened : Opened data fds) (serves : Writes (op.serve data) fds P) (holds : Q)
    (calls : op.call (some data) = op.serve data >>= fun res => pure (some data, res)) : Exact (op.call (some data)) fds Q := by
  obtain ⟨res, events, same, legal, -⟩ := serves
  have answered : op.call (some data) = ⟨.ok (some data, res), events ++ []⟩ := by
    rw [calls, same]
    rfl
  rw [List.append_nil] at answered
  exact exact_some answered legal opened holds

theorem call_none (absent : r.channel = none) : Exact (op.call none) 0 (Fits op r) := by
  cases op with
  | request node config x =>
    cases node with
    | false => exact exact_none rfl (iff_of_true rfl nofun)
    | true =>
      have fits : Fits (.request true config x) r ↔ x.Fits config := ⟨fun fits => fits rfl absent, fun fits _ _ => fits⟩
      have exact := request_exact config x
      exact ⟨fun lawful => fits.2 (exact.fits lawful), fun holds => exact.known (fits.1 holds)⟩
  | release w => exact exact_none rfl (iff_of_true rfl absent)
  | _ => exact exact_none rfl (iff_of_true rfl trivial)

theorem call_some (here : r.channel = some data) (opened : Opened data r.fds) : Exact (op.call (some data)) r.fds (Fits op r) := by
  have absent : r.channel ≠ none := by
    rw [here]
    nofun
  have opened' := opened
  obtain ⟨e, c, p, l, enb, cycl, perd, polr, fds⟩ := opened'
  have inside {fd : Nat} (member : fd ∈ [e, c, p, l]) : (fd : Int) ∈ r.fds := by
    rw [fds]
    simpa [or_assoc] using member
  have enb' : (e : Int) ∈ r.fds := inside (by simp)
  cases op with
  | request node config x => exact exact_some rfl rfl opened fun _ none => absurd none absent
  | release w =>
    obtain ⟨events, released, left⟩ := opened_release (w := w) opened
    have same : (Op.release w).call (some data) = ⟨.ok (none, .code .ok), events ++ []⟩ := by
      rw [Op.call, Op.serve, released]
      rfl
    refine exact_none same (iff_of_false ?_ absent)
    rw [List.append_nil]
    exact left
  | enable w => exact setter_exact (.enable w) opened (enable_writes enb enb') trivial rfl
  | disable w => exact setter_exact (.disable w) opened (enable_writes enb enb') trivial rfl
  | setPeriod value w => exact setter_exact (.setPeriod value w) opened (setOff_writes enb perd enb' (inside (by simp))) trivial rfl
  | setPolarity value w =>
    have polr' : (l : Int) ∈ r.fds := inside (by simp)
    exact setter_exact (.setPolarity value w) opened (setPolarity_writes enb polr enb' polr') trivial rfl
  | setDutyCycle value w => exact setter_exact (.setDutyCycle value w) opened (setOff_writes enb cycl enb' (inside (by simp))) trivial rfl

def Registry.Inv (r : Registry) : Prop := Known r.channel r.fds

theorem call_exact (inv : r.Inv) : Exact (op.call r.channel) r.fds (Fits op r) := by
  rw [Registry.Inv] at inv
  cases here : r.channel with
  | none =>
    rw [here] at inv
    have empty : r.fds = 0 := inv
    rw [empty]
    exact call_none here
  | some data =>
    rw [here] at inv
    exact call_some here inv

theorem step_eq {p : Option UserData × Result} (same : op.call r.channel = ⟨.ok p, events⟩) (legal : follow events r.fds = some fds) :
    r.step op = .ok (⟨p.1, fds⟩, ⟨p.2, events⟩) := by
  rw [Registry.step, same]
  dsimp only
  rw [legal]
  rfl

theorem step_iff (op : Op) (inv : r.Inv) : (∃ r' o, r.step op = .ok (r', o) ∧ Keeps ⟨r, op, r', o⟩) ↔ Fits op r := by
  constructor
  · rintro ⟨r', o, answered, keeps⟩
    obtain ⟨p, returned, same⟩ := map_ok_iff.1 answered
    cases same
    exact (call_exact inv).fits ⟨p, _, _, congrArg (Traced.mk · _) returned, keeps.astray, keeps.closed⟩
  · intro fits
    obtain ⟨p, events, fds, same, legal, known⟩ := (call_exact inv).known fits
    refine ⟨_, _, step_eq same legal, legal, fun none => ?_⟩
    have absent : p.1 = .none := none
    rw [absent] at known
    exact known

theorem step_keep (inv : r.Inv) (fits : Fits op r) (answered : r.step op = .ok (r', o)) : r'.Inv := by
  obtain ⟨p, events, fds, same, legal, known⟩ := (call_exact inv).known fits
  cases answered.symm.trans (step_eq same legal)
  exact known

/-- **The descriptors of a channel**: in a run from the start every write and close goes to a descriptor that was opened
and is not closed, and none is left by a request that fails or by a release, exactly if no channel is released, and in a
request the pin is exported and its first two files are opened, and then either the other two are opened and
everything is set, or the release does not fail at `unexport`. -/
theorem pwm_iff (ops : List Op) :
    (∃ cs r, exec Registry.step ops .init = .ok (cs, r) ∧ ∀ c ∈ cs, Keeps c) ↔ Along Fits Registry.step ops .init :=
  exec_along_iff (fun op _ inv => step_iff op inv) (fun _ _ _ _ inv fits answered => step_keep inv fits answered) rfl

/-- Outcomes where everything succeeds. -/
def Releasing.good : Releasing := ⟨⟨none, none, none⟩, none, ⟨some 3, none, true⟩⟩

/-- The same for a request, with four descriptors from 4 on. -/
def Requesting.good : Requesting where
  exp := ⟨some 3, none, true⟩
  opens i := some (if i = .enb then 4 else if i = .cycl then 5 else if i = .perd then 6 else 7)
  enable := none
  polarity := ⟨none, none, none⟩
  period := ⟨none, none, none⟩
  dutyCycle := ⟨none, none, none⟩
  release := .good

/-- A channel is requested and released; descriptor 7 is left. -/
theorem release_leaves_polarity :
    ∃ c r, exec Registry.step [.request true ⟨0, 100, 50, 0⟩ .good, .release .good] .init = .ok (c, r) ∧ ∃ d ∈ c, ¬ Keeps d := by
  refine ⟨_, _, rfl, _, List.mem_of_getLast? rfl, fun keeps => ?_⟩
  exact absurd (keeps.closed rfl) (by decide)

end ArtikSdk.Systemio.Pwm
