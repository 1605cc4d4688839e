import ArtikSdk.Http.Tls

/-!
# What is left behind by a request

`Tidy` is what a request should do: it ends without a fault, every object it allocated has been
freed, once, except the text that is handed over, and the security module and its handle are
released as often as they were requested. A failed setup frees the configuration and leaves its
pointer set, so the exit of the request frees it again; a setup is tidy only where no step fails.
-/

namespace ArtikSdk.Http.Tls
open Lib Checked Ledger

variable {m : Memory} {env : Setup} {a : SslConfig}

/-! ## The configuration is freed -/

/-- What `release_http_ssl_config` frees. -/
def sslMembers : List Object := [.ctrDrbg, .entropy, .pkey, .cert, .tlsConf, .devCert, .privateKey, .ssl]

section

variable {Q : Unit → Memory → Prop}

theorem goes_freeMember {holder member : Object} : Goes (freeMember holder member) Q m ↔
    m.life holder = .live ∧ m.life member ≠ .freed ∧ Q () (m.drop [member]) := by
  rw [freeMember]
  simp only [goes_bind, goes_use, goes_isSet, goes_ite, goes_free, goes_pure]
  refine and_congr_right fun _ => ?_
  cases life : m.life member with
  | unborn => simp [drop_dead, life]
  | live => simp [become_freed, life]
  | freed => simp

theorem goes_release : Goes releaseHttpSslConfig Q m ↔
    m.life .config = .live ∧ m.life .ssl = .live ∧ (∀ o ∈ sslMembers, m.life o ≠ .freed) ∧ Q () (m.drop sslMembers) := by
  rw [releaseHttpSslConfig]
  simp [goes_freeMember, drop_drop, sslMembers]
  tauto

theorem goes_exit_live (config : m.life .config = .live) : Goes exit Q m ↔
    m.life .ssl = .live ∧ (∀ o ∈ sslMembers, m.life o ≠ .freed) ∧ Q () (m.drop (sslMembers ++ [.config])) := by
  have kept : (m.drop sslMembers).life .config = .live := by simp [sslMembers, config]
  rw [exit]
  simp only [goes_bind, goes_isSet, config, goes_ite, goes_release, goes_free, kept, true_and, become_freed kept, drop_drop]
  simp

theorem goes_exit_unborn (config : m.life .config = .unborn) : Goes exit Q m ↔ Q () m := by
  rw [exit]
  simp [config]

/-- The configuration is not freed twice without a fault. -/
theorem not_goes_exit_freed (config : m.life .config = .freed) : ¬ Goes exit Q m := by
  rw [exit]
  simp [goes_release, config]

end

/-! ## The setup -/

section

variable {Q : Except ArtikError Unit → Memory → Prop}

theorem leaves_zalloc {o : Object} {given : Bool} :
    Leaves (zalloc o given) Q m ↔ if given then Q (.ok ()) (m.become o .live) else Q (.error .noMem) m := by
  rw [zalloc]
  simp only [leaves_bind, leaves_lift, goes_alloc, leaves_ite, leaves_pure, leaves_throw]
  cases given <;> simp

theorem leaves_zallocMember {holder member : Object} {given : Bool} : Leaves (zallocMember holder member given) Q m ↔
    m.life holder = .live ∧ if given then Q (.ok ()) (m.become member .live) else Q (.error .noMem) m := by
  rw [zallocMember]
  simp only [leaves_bind, leaves_lift, goes_use, leaves_zalloc, onward_ok]

theorem leaves_check {ok : Bool} {e : ArtikError} : Leaves (check ok e) Q m ↔ if ok then Q (.ok ()) m else Q (.error e) m := by
  rw [check]
  simp

/-- Nothing is as required that leaves for the exit with a configuration. -/
def Dead {β : Type} (Q : Except ArtikError β → Memory → Prop) : Prop := ∀ e m, m.life .config = .live → ¬ Q (.error e) m

@[simp] theorem dead_onward {β : Type} {R : β → Memory → Prop} : Dead (Onward Q R) ↔ Dead Q := Iff.rfl

@[mk_iff] structure DefaultsSet (env : Setup) : Prop where
  sslMemory : env.sslMemory
  tlsConfMemory : env.tlsConfMemory
  entropyMemory : env.entropyMemory
  ctrDrbgMemory : env.ctrDrbgMemory
  ctrDrbgSeed : env.ctrDrbgSeed = 0
  configDefaults : env.configDefaults = 0

@[mk_iff] structure SeSet (env : Setup) : Prop where
  securityModule : env.securityModule
  certMemory : env.certMemory
  pkeyMemory : env.pkeyMemory
  request : env.request = .ok
  getCertificate : env.getCertificate.1 = .ok ∧ env.getCertificate.2
  getRootCa : env.getRootCa.1 = .ok ∧ env.getRootCa.2
  certParse : env.certParse = 0
  pkInfo : env.pkInfo
  pkSetup : env.pkSetup = 0
  ownCert : env.ownCert = 0
  rootCaParse : env.rootCaParse = 0

@[mk_iff] structure ClientCertSet (env : Setup) : Prop where
  certMemory : env.certMemory
  pkeyMemory : env.pkeyMemory
  certParse : env.certParse = 0
  parseKey : env.parseKey = 0
  ownCert : env.ownCert = 0

/-- The memory after `setupDefaults`. -/
def defaultsMemory (m : Memory) : Memory :=
  (((m.become .ssl .live).become .tlsConf .live).become .entropy .live).become .ctrDrbg .live

def certMemory (m : Memory) : Memory := (m.become .cert .live).become .pkey .live

def ownCertMemory (env : Setup) (m : Memory) : Memory := m.give .keyCert (decide (env.ownCert = 0) && env.ownCertKeeps)

def textsMemory (m : Memory) : Memory :=
  ((((certMemory (m.countAsked .module)).countAsked .handle).become .seCert .live).become .seRootCa .live).countReleased .handle
    |>.countReleased .module

def seMemory (env : Setup) (m : Memory) : Memory :=
  ((ownCertMemory env (textsMemory m)).become .seCert .freed).become .seRootCa .freed

theorem leaves_setupDefaults (dead : Dead Q) (config : m.life .config = .live) :
    Leaves (setupDefaults env) Q m ↔ DefaultsSet env ∧ Q (.ok ()) (defaultsMemory m) := by
  have none : ∀ e m', m'.life .config = .live → ¬ Q (.error e) m' := dead
  rw [setupDefaults, defaultsSet_iff]
  simp [leaves_zallocMember, leaves_check, config, none, defaultsMemory, and_assoc]

theorem leaves_checkSe (dead : Dead Q) (config : m.life .config = .live) {ok : Bool} :
    Leaves (checkSe ok) Q m ↔ ok ∧ Q (.ok ()) m := by
  unfold Dead at dead
  rw [checkSe]
  cases ok <;> simp [config, dead]

theorem leaves_getText (dead : Dead Q) (config : m.life .config = .live) {o : Object} (other : .config ≠ o) {r : ArtikError × Bool} :
    Leaves (getText o r) Q m ↔ (r.1 = .ok ∧ r.2) ∧ Q (.ok ()) (m.become o .live) := by
  unfold Dead at dead
  obtain ⟨code, given⟩ := r
  rw [getText]
  simp only [leaves_bind, leaves_lift, goes_alloc, leaves_check]
  cases given
  · simp [config, dead]
  · by_cases ok : code = .ok <;> simp [ok, config, dead, other]

theorem leaves_setupSe (dead : Dead Q) (config : m.life .config = .live) (ssl : m.life .ssl = .live) (tlsConf : m.life .tlsConf = .live) :
    Leaves (setupSe env) Q m ↔ SeSet env ∧ Q (.ok ()) (seMemory env m) := by
  have none : ∀ e m', m'.life .config = .live → ¬ Q (.error e) m' := dead
  rw [setupSe, seSet_iff]
  simp [leaves_zallocMember, leaves_check, leaves_checkSe, leaves_getText, sslConfOwnCert, config, ssl, tlsConf, none, dead,
    seMemory, ownCertMemory, textsMemory, certMemory, and_assoc]

theorem leaves_setupClientCert (dead : Dead Q) (config : m.life .config = .live) (ssl : m.life .ssl = .live)
    (tlsConf : m.life .tlsConf = .live) :
    Leaves (setupClientCert env) Q m ↔ ClientCertSet env ∧ Q (.ok ()) (ownCertMemory env (certMemory m)) := by
  have none : ∀ e m', m'.life .config = .live → ¬ Q (.error e) m' := dead
  rw [setupClientCert, clientCertSet_iff]
  simp [leaves_zallocMember, leaves_check, sslConfOwnCert, config, ssl, tlsConf, none, ownCertMemory, certMemory, and_assoc]

theorem leaves_setupRootCa (dead : Dead Q) (config : m.life .config = .live) (ssl : m.life .ssl = .live) (tlsConf : m.life .tlsConf = .live)
    (cert : m.life .cert ≠ .freed) :
    Leaves (setupRootCa env) Q m ↔ ((m.life .cert = .unborn → env.rootCaMemory) ∧ env.rootCaParse = 0) ∧
      Q (.ok ()) (m.become .cert .live) := by
  have none : ∀ e m', m'.life .config = .live → ¬ Q (.error e) m' := dead
  rw [setupRootCa]
  cases life : m.life .cert with
  | unborn => simp [leaves_zallocMember, leaves_check, config, ssl, tlsConf, none, life, and_assoc]
  | live => simp [leaves_check, config, ssl, tlsConf, none, life, become_live life]
  | freed => exact (cert life).elim

/-- The memory after a setup. -/
def setupMemory (env : Setup) (a : SslConfig) (m : Memory) : Memory :=
  let m := defaultsMemory (m.become .config .live)
  if a.useSe then seMemory env m
  else
    let m := if a.clientPair then ownCertMemory env (certMemory m) else m
    if a.caCert then m.become .cert .live else m

/-- No step of the setup fails. -/
@[mk_iff] structure SetupDone (env : Setup) (a : SslConfig) : Prop where
  defaults : DefaultsSet env
  se : a.useSe = true → SeSet env
  clientCert : a.useSe = false → a.clientPair = true → ClientCertSet env
  rootCa : a.useSe = false → a.caCert = true → (a.clientPair = false → env.rootCaMemory) ∧ env.rootCaParse = 0

theorem leaves_setupSsl (dead : Dead Q) (cert : m.life .cert = .unborn) : Leaves (setupSsl env a) Q m ↔
    if env.configMemory then SetupDone env a ∧ Q (.ok ()) (setupMemory env a m) else Q (.error .noMem) m := by
  rw [setupSsl]
  simp only [leaves_bind, leaves_zalloc]
  cases env.configMemory with
  | false => simp
  | true =>
    simp only [if_true, onward_ok]
    rw [leaves_setupDefaults (dead_onward.2 dead) (by simp), onward_ok, setupDone_iff, setupMemory]
    have config : (defaultsMemory (m.become .config .live)).life .config = .live := by simp [defaultsMemory]
    have ssl : (defaultsMemory (m.become .config .live)).life .ssl = .live := by simp [defaultsMemory]
    have tlsConf : (defaultsMemory (m.become .config .live)).life .tlsConf = .live := by simp [defaultsMemory]
    have cert' : (defaultsMemory (m.become .config .live)).life .cert = .unborn := by simp [defaultsMemory, cert]
    generalize defaultsMemory (m.become .config .live) = d at *
    cases a.useSe with
    | true => simp [leaves_setupSe, dead, config, ssl, tlsConf, seMemory, ownCertMemory, textsMemory, certMemory, and_assoc]
    | false =>
      cases a.clientPair <;> cases a.caCert <;>
        simp [leaves_setupClientCert, leaves_setupRootCa, dead, config, ssl, tlsConf, cert', ownCertMemory, certMemory, and_assoc]

end

theorem goes_initClientSslConfig {Q : ArtikError → Memory → Prop} (dead : ∀ e m', m'.life .config = .freed → ¬ Q e m')
    (cert : m.life .cert = .unborn) (config : m.life .config = .unborn) : Goes (initClientSslConfig env a) Q m ↔
    if env.configMemory then SetupDone env a ∧ Q .ok (setupMemory env a m) else Q .noMem m := by
  rw [initClientSslConfig, goes_bind]
  change Leaves (setupSsl env a) _ m ↔ _
  rw [leaves_setupSsl ?_ cert]
  · simp only [goes_bind, goes_exit_unborn config, goes_pure]
  · intro e m' live
    simp only [goes_bind, goes_exit_live live, goes_pure]
    rintro ⟨-, -, right⟩
    exact dead e _ (by simp [live]) right

/-! ## The request -/

/-- The memory after calls for random bytes: the handle is released also where it was not given. -/
def servedMemory (calls : List RandomCall) (m : Memory) : Memory where
  life := m.life
  asked
    | .module => m.asked .module + calls.length
    | .handle => m.asked .handle + calls.countP fun c => decide (c.request = .ok)
  released k := m.released k + calls.length

theorem servedMemory_nil : servedMemory [] m = m := by
  ext k
  · rfl
  · cases k <;> simp [servedMemory]
  · simp [servedMemory]

theorem servedMemory_cons (c : RandomCall) (calls : List RandomCall) :
    servedMemory calls (servedMemory [c] m) = servedMemory (c :: calls) m := by
  ext k
  · rfl
  · cases k <;> simp [servedMemory, List.countP_cons] <;> omega
  · simp [servedMemory]
    omega

theorem goes_seeGenerateRandomClient {Q : Unit → Memory → Prop} {c : RandomCall} : Goes (seeGenerateRandomClient c) Q m ↔
    if c.asked then c.securityModule ∧ Q () (servedMemory [c] m) else Q () m := by
  have memory : ((if c.request = .ok then (m.countAsked SecurityApi.module).countAsked .handle else m.countAsked .module).countReleased
      .handle).countReleased .module = servedMemory [c] m := by
    by_cases given : c.request = .ok
    · ext k
      · simp [given, servedMemory]
      · cases k <;> simp [given, servedMemory]
      · cases k <;> simp [given, servedMemory]
    · ext k
      · simp [given, servedMemory]
      · cases k <;> simp [given, servedMemory]
      · cases k <;> simp [given, servedMemory]
  rw [seeGenerateRandomClient]
  cases c.asked <;> cases c.securityModule <;> simp [goes_ite, ← memory]
  split <;> rfl

theorem goes_randomCalls {Q : Unit → Memory → Prop} (calls : List RandomCall) : Goes (forM calls seeGenerateRandomClient) Q m ↔
    (∀ c ∈ calls.filter (·.asked), c.securityModule) ∧ Q () (servedMemory (calls.filter (·.asked)) m) := by
  induction calls generalizing m with
  | nil =>
    rw [List.forM_nil, goes_pure, List.filter_nil, servedMemory_nil]
    exact ⟨fun holds => ⟨fun _ member => (List.not_mem_nil member).elim, holds⟩, And.right⟩
  | cons c calls ih =>
    rw [List.forM_cons, goes_bind, goes_seeGenerateRandomClient, List.filter_cons]
    split
    · rw [ih, servedMemory_cons, List.forall_mem_cons, and_assoc]
    · exact ih

/-! ## What a request should leave behind -/

/-- Only the text that is handed over is left, and what was requested is released. -/
def Left (ret : ArtikError) (m : Memory) : Prop := (∀ o, m.life o = .live → o = .text ∧ ret = .ok) ∧ m.Balanced

def Tidy (request : Act ArtikError) : Prop := Goes request Left start

/-- The secure element's module and its handle are there for every call. -/
def RandomServed (env : Outcomes) (a : SslConfig) : Prop :=
  a.useSe = true → ∀ c ∈ env.randomCalls, c.asked = true → c.securityModule = true ∧ c.request = .ok

/-- mbed TLS keeps nothing in the configuration that `free` does not free. -/
def KeepsNothing (env : Setup) (a : SslConfig) : Prop := a.useSe = true ∨ a.clientPair = true → env.ownCertKeeps = false

/-- The setup succeeds, and so does what it needs of the secure element later. -/
def SetupTidy (env : Outcomes) (sends : Prop) (a : SslConfig) : Prop :=
  SetupDone env.setup a ∧ KeepsNothing env.setup a ∧ (sends → RandomServed env a)

/-- There is no memory for the configuration itself. -/
def NoConfig (env : Outcomes) (ssl : Option SslConfig) : Prop := ssl.isSome = true ∧ env.setup.configMemory = false

def StreamTidy (env : Outcomes) (ssl : Option SslConfig) : Prop :=
  NoConfig env ssl ∨ (∀ a ∈ ssl, SetupTidy env (env.bufMemory = true) a) ∧ (ssl = none → env.bufMemory = false)

def MethodTidy (env : Outcomes) (ssl : Option SslConfig) : Prop :=
  env.headersInit < 0 ∨ NoConfig env ssl ∨
    (∀ a ∈ ssl, SetupTidy env (0 ≤ env.responseInit) a) ∧
      (0 ≤ env.responseInit → 0 ≤ env.sent → 0 < env.entityLen → env.textMemory = true)

/-- What there is after a setup. -/
structure Held (env : Setup) (a : SslConfig) (m : Memory) : Prop where
  live : ∀ o ∈ [Object.config, .ssl, .tlsConf, .entropy, .ctrDrbg], m.life o = .live
  members : ∀ o ∈ sslMembers, m.life o ≠ .freed
  keyCert : m.life .keyCert = .live ↔ ¬ KeepsNothing env a
  texts : m.life .seCert ≠ .live ∧ m.life .seRootCa ≠ .live

/-- The objects of a request that are not of the setup. -/
def others : List Object := [.headers, .buf, .response, .text]

theorem Held.congr {m' : Memory} (held : Held env a m) (same : ∀ o, o ∉ others → m'.life o = m.life o) : Held env a m' where
  live o member := (same o ((by decide : ∀ o ∈ [Object.config, .ssl, .tlsConf, .entropy, .ctrDrbg], o ∉ others) o member)).trans
    (held.live o member)
  members o member := by
    rw [same o ((by decide : ∀ o ∈ sslMembers, o ∉ others) o member)]
    exact held.members o member
  keyCert := by
    rw [same .keyCert (by decide)]
    exact held.keyCert
  texts := by
    rw [same .seCert (by decide), same .seRootCa (by decide)]
    exact held.texts

theorem setupMemory_live {o : Object} (member : o ∈ [Object.config, .ssl, .tlsConf, .entropy, .ctrDrbg]) :
    (setupMemory env a m).life o = .live := by
  simp only [List.mem_cons, List.not_mem_nil, or_false] at member
  rw [setupMemory]
  obtain rfl | rfl | rfl | rfl | rfl := member <;> cases a.useSe <;> cases a.clientPair <;> cases a.caCert <;>
    simp [seMemory, textsMemory, ownCertMemory, certMemory, defaultsMemory]

theorem setupMemory_other {o : Object} (other : o ∈ others) : (setupMemory env a m).life o = m.life o := by
  simp only [others, List.mem_cons, List.not_mem_nil, or_false] at other
  rw [setupMemory]
  obtain rfl | rfl | rfl | rfl := other <;> cases a.useSe <;> cases a.clientPair <;> cases a.caCert <;>
    simp [seMemory, textsMemory, ownCertMemory, certMemory, defaultsMemory]

theorem setupMemory_balanced : (setupMemory env a m).Balanced ↔ m.Balanced := by
  refine forall_congr' fun k => ?_
  rw [setupMemory]
  cases k <;> cases a.useSe <;> cases a.clientPair <;> cases a.caCert <;>
    simp [seMemory, textsMemory, ownCertMemory, certMemory, defaultsMemory]

theorem held_setup (done : SetupDone env a) (fresh : ∀ o, o ∉ others → m.life o = .unborn) : Held env a (setupMemory env a m) where
  live o member := setupMemory_live member
  members := by
    rw [setupMemory]
    cases a.useSe <;> cases a.clientPair <;> cases a.caCert <;>
      simp [sslMembers, seMemory, textsMemory, ownCertMemory, certMemory, defaultsMemory, fresh, others]
  keyCert := by
    obtain ⟨-, se, clientCert, -⟩ := done
    rw [setupMemory, KeepsNothing]
    cases useSe : a.useSe with
    | true => simp [seMemory, textsMemory, ownCertMemory, certMemory, defaultsMemory, fresh, others, (se useSe).ownCert]
    | false =>
      cases pair : a.clientPair with
      | true => cases a.caCert <;> simp [ownCertMemory, certMemory, defaultsMemory, fresh, others, (clientCert useSe pair).ownCert]
      | false => cases a.caCert <;> simp [defaultsMemory, fresh, others]
  texts := by
    rw [setupMemory]
    cases a.useSe <;> cases a.clientPair <;> cases a.caCert <;>
      simp [seMemory, textsMemory, ownCertMemory, certMemory, defaultsMemory, fresh, others]

/-- What is required where the configuration is freed. -/
def AtExit (ret : ArtikError) (m : Memory) : Prop := Goes exit (fun _ => Left ret) m

/-- The exit of a request with a configuration. -/
theorem Held.atExit (held : Held env a m) {ret : ArtikError} : AtExit ret m ↔
    KeepsNothing env a ∧ (∀ o ∈ others, m.life o = .live → o = .text ∧ ret = .ok) ∧ m.Balanced := by
  rw [AtExit]
  have config := held.live .config (by simp)
  have ssl := held.live .ssl (by simp)
  rw [goes_exit_live config, Left]
  constructor
  · rintro ⟨-, -, left, balanced⟩
    refine ⟨?_, fun o other live => left o ?_, balanced⟩
    · by_contra keeps
      have live := held.keyCert.2 keeps
      obtain ⟨text, -⟩ := left .keyCert (by simp [sslMembers, live])
      cases text
    · have kept := (by decide : ∀ o ∈ others, o ∉ sslMembers ++ [.config]) o other
      simp [live, kept]
  · rintro ⟨keeps, rest, balanced⟩
    refine ⟨ssl, held.members, fun o live => ?_, balanced⟩
    rw [drop_life] at live
    split at live
    · cases live
    rename_i kept
    have absent : o ∉ sslMembers ++ [.config] := fun member => kept ⟨member, live⟩
    by_cases other : o ∈ others
    · exact rest o other live
    · have cases : o = .keyCert ∨ o = .seCert ∨ o = .seRootCa := by
        revert absent other
        cases o <;> decide
      obtain rfl | rfl | rfl := cases
      · exact (held.keyCert.1 live keeps).elim
      · exact (held.texts.1 live).elim
      · exact (held.texts.2 live).elim

theorem Held.become {o : Object} {l : Life} (held : Held env a m) (other : o ∈ others) : Held env a (m.become o l) :=
  held.congr fun o' none => by
    rw [become_life, if_neg]
    rintro rfl
    exact none other

/-! ## With and without a configuration -/

variable {outcomes : Outcomes} {ssl : Option SslConfig}

/-- What there is after the setup of a request. -/
def Ready (outcomes : Outcomes) (m : Memory) : Option SslConfig → Prop
  | none => ∀ o, o ∉ others → m.life o = .unborn
  | some a => Held outcomes.setup a m

theorem Ready.congr {m' : Memory} (ready : Ready outcomes m ssl) (same : ∀ o, o ∉ others → m'.life o = m.life o) :
    Ready outcomes m' ssl := by
  cases ssl with
  | none => exact fun o none => (same o none).trans (ready o none)
  | some a => exact Held.congr ready same

theorem Ready.become {o : Object} {l : Life} (ready : Ready outcomes m ssl) (other : o ∈ others) : Ready outcomes (m.become o l) ssl :=
  ready.congr fun o' none => by
    rw [become_life, if_neg]
    rintro rfl
    exact none other

theorem Ready.ssl_live (ready : Ready outcomes m ssl) : m.life .ssl = .live ↔ ssl.isSome := by
  cases ssl with
  | none => simp [ready .ssl (by decide)]
  | some a => simp [Held.live ready .ssl (by simp)]

theorem Ready.atExit (ready : Ready outcomes m ssl) (ret : ArtikError) : AtExit ret m ↔
    (∀ a ∈ ssl, KeepsNothing outcomes.setup a) ∧ (∀ o ∈ others, m.life o = .live → o = .text ∧ ret = .ok) ∧ m.Balanced := by
  cases ssl with
  | none =>
    have config : m.life .config = .unborn := ready .config (by decide)
    rw [AtExit, goes_exit_unborn config, Left]
    constructor
    · exact fun ⟨left, balanced⟩ => ⟨fun _ none => (Option.not_mem_none _ none).elim, fun o _ => left o, balanced⟩
    · refine fun ⟨_, left, balanced⟩ => ⟨fun o live => ?_, balanced⟩
      by_cases other : o ∈ others
      · exact left o other live
      · rw [ready o other] at live
        cases live
  | some a =>
    rw [Held.atExit ready]
    simp

/-- The memory after the setup of a request. -/
def readyMemory (outcomes : Outcomes) (m : Memory) : Option SslConfig → Memory
  | none => m
  | some a => setupMemory outcomes.setup a m

theorem ready_setup (done : ∀ a ∈ ssl, SetupDone outcomes.setup a) (fresh : ∀ o, o ∉ others → m.life o = .unborn) :
    Ready outcomes (readyMemory outcomes m ssl) ssl := by
  cases ssl with
  | none => exact fresh
  | some a => exact held_setup (done a rfl) fresh

theorem readyMemory_other {o : Object} (other : o ∈ others) : (readyMemory outcomes m ssl).life o = m.life o := by
  cases ssl with
  | none => rfl
  | some a => exact setupMemory_other other

theorem readyMemory_balanced : (readyMemory outcomes m ssl).Balanced ↔ m.Balanced := by
  cases ssl with
  | none => rfl
  | some a => exact setupMemory_balanced

/-- A failed setup leaves the pointer to a freed configuration, so the exit of the request is a fault. -/
theorem leaves_setupRequest {Q : Except ArtikError Unit → Memory → Prop} (dead : ∀ e m', m'.life .config = .freed → ¬ Q (.error e) m')
    (fresh : ∀ o, o ∉ others → m.life o = .unborn) : Leaves (setupRequest outcomes ssl) Q m ↔
    NoConfig outcomes ssl ∧ Q (.error .noMem) m ∨
      ¬ NoConfig outcomes ssl ∧ (∀ a ∈ ssl, SetupDone outcomes.setup a) ∧ Q (.ok ()) (readyMemory outcomes m ssl) := by
  cases ssl with
  | none => simp [setupRequest, NoConfig, readyMemory]
  | some a =>
    have live : (setupMemory outcomes.setup a m).life .config = .live := setupMemory_live (by simp)
    rw [setupRequest]
    simp only [leaves_bind, leaves_lift]
    rw [goes_initClientSslConfig ?_ (fresh .cert (by decide)) (fresh .config (by decide))]
    · cases memory : outcomes.setup.configMemory <;> simp [leaves_check, live, NoConfig, readyMemory, memory]
    · intro e m' freed
      simp only [onward_ok, leaves_check, goes_use, freed]
      split
      · simp
      · exact dead e m' freed

/-! ## Random bytes -/

/-- As often released as requested, after calls for random bytes. -/
theorem servedMemory_balanced (calls : List RandomCall) (balanced : m.Balanced) :
    (servedMemory calls m).Balanced ↔ ∀ c ∈ calls, c.request = .ok := by
  constructor
  · intro served
    have handle := served .handle
    have before := balanced .handle
    simp only [servedMemory] at handle
    have all := List.countP_eq_length.1 (show calls.countP (fun c => decide (c.request = .ok)) = calls.length by omega)
    exact fun c member => of_decide_eq_true (all c member)
  · intro all k
    have count : calls.countP (fun c => decide (c.request = .ok)) = calls.length :=
      List.countP_eq_length.2 fun c member => decide_eq_true (all c member)
    have before := balanced k
    cases k <;> simp only [servedMemory, count] <;> omega

/-- The calls of a request that come to the security module. -/
def asked (outcomes : Outcomes) : Option SslConfig → List RandomCall
  | none => []
  | some a => if a.useSe then outcomes.randomCalls.filter (·.asked) else []

theorem goes_tlsRequest {Q : Unit → Memory → Prop} (ready : Ready outcomes m ssl) : Goes (tlsRequest outcomes ssl) Q m ↔
    (∀ c ∈ asked outcomes ssl, c.securityModule = true) ∧ Q () (servedMemory (asked outcomes ssl) m) := by
  cases ssl with
  | none => simp [tlsRequest, asked, servedMemory_nil]
  | some a =>
    have live := Held.live ready
    simp only [List.forall_mem_cons] at live
    rw [tlsRequest, asked]
    cases a.useSe <;> simp [live, goes_randomCalls, servedMemory_nil]

@[simp] theorem servedMemory_life {calls : List RandomCall} : (servedMemory calls m).life = m.life := rfl

/-- The module was there, and what was requested is released. -/
theorem randomServed_iff (balanced : m.Balanced) : (∀ a ∈ ssl, RandomServed outcomes a) ↔
    (∀ c ∈ asked outcomes ssl, c.securityModule = true) ∧ (servedMemory (asked outcomes ssl) m).Balanced := by
  rw [servedMemory_balanced _ balanced]
  cases ssl with
  | none => simp [asked]
  | some a =>
    simp only [Option.mem_some_iff, forall_eq', RandomServed, asked]
    cases a.useSe with
    | false => simp
    | true =>
      simp only [if_true, List.mem_filter]
      constructor
      · exact fun served => ⟨fun c member => (served trivial c member.1 member.2).1, fun c member => (served trivial c member.1 member.2).2⟩
      · exact fun ⟨given, requested⟩ _ c member asked => ⟨given c ⟨member, asked⟩, requested c ⟨member, asked⟩⟩

/-- The exit of a request that was sent. -/
theorem Ready.sent_atExit {m' : Memory} (ret : ArtikError) (ready : Ready outcomes m' ssl) (balanced : m.Balanced)
    (counted : m'.Balanced ↔ (servedMemory (asked outcomes ssl) m).Balanced) :
    (∀ c ∈ asked outcomes ssl, c.securityModule = true) ∧ AtExit ret m' ↔ (∀ a ∈ ssl, KeepsNothing outcomes.setup a) ∧
      (∀ a ∈ ssl, RandomServed outcomes a) ∧ ∀ o ∈ others, m'.life o = .live → o = .text ∧ ret = .ok := by
  rw [ready.atExit, counted, randomServed_iff balanced]
  tauto

/-! ## The requests -/

/-- The stream: a body, and the exit. -/
theorem goes_with_exit {body : Body Unit} : Goes (do
      let r ← body.run
      exit
      pure (result r)) Left m ↔ Leaves body (fun r => AtExit (result r)) m := by
  simp only [goes_bind, goes_pure]
  rfl

theorem others_forall {P : Object → Prop} : (∀ o ∈ others, P o) ↔ P .headers ∧ P .buf ∧ P .response ∧ P .text := by
  simp [others]

theorem atExit_start {ret : ArtikError} : AtExit ret start := (goes_exit_unborn rfl).2 ⟨fun _ live => (nomatch live), fun _ => rfl⟩

/-- The stream with its buffer, after the setup. -/
theorem stream_sent (ready : Ready outcomes m ssl) (balanced : m.Balanced) (unborn : ∀ o ∈ others, m.life o = .unborn) :
    Leaves (do
      use .ssl
      tlsRequest outcomes ssl
      free .buf
      check (0 ≤ outcomes.sent) .httpError : Body Unit) (fun r => AtExit (result r)) (m.become .buf .live) ↔
    (∀ a ∈ ssl, KeepsNothing outcomes.setup a) ∧ (∀ a ∈ ssl, RandomServed outcomes a) ∧ ssl ≠ none := by
  have during : Ready outcomes (m.become .buf .live) ssl := ready.become (by decide)
  have after : Ready outcomes ((servedMemory (asked outcomes ssl) (m.become .buf .live)).become .buf .freed) ssl :=
    Ready.become (during.congr fun _ _ => rfl) (by decide)
  have exits : ∀ ret, (∀ c ∈ asked outcomes ssl, c.securityModule = true) ∧
      AtExit ret ((servedMemory (asked outcomes ssl) (m.become .buf .live)).become .buf .freed) ↔
        (∀ a ∈ ssl, KeepsNothing outcomes.setup a) ∧ ∀ a ∈ ssl, RandomServed outcomes a := by
    intro ret
    rw [after.sent_atExit _ (m := m.become .buf .live) balanced Iff.rfl, others_forall]
    rw [others_forall] at unborn
    simp [unborn]
  simp only [leaves_bind, leaves_lift, goes_use, during.ssl_live, onward_ok, goes_tlsRequest during, goes_free, leaves_check]
  simp only [servedMemory_life, become_life, if_true, true_and, Option.isSome_iff_ne_none]
  split <;> rw [exits, and_comm, and_assoc]

theorem stream_iff : Tidy (httpMethodStream outcomes ssl) ↔ StreamTidy outcomes ssl := by
  rw [Tidy, httpMethodStream, goes_with_exit, streamBody, leaves_bind, leaves_setupRequest ?_ fun _ _ => rfl, StreamTidy]
  · by_cases noConfig : NoConfig outcomes ssl
    · simp [noConfig, atExit_start]
    · simp only [noConfig, false_and, false_or, not_false_eq_true, true_and, onward_ok, SetupTidy, forall_and, and_assoc]
      refine and_congr_right fun done => ?_
      have ready : Ready outcomes (readyMemory outcomes start ssl) ssl := ready_setup done fun _ _ => rfl
      have balanced : (readyMemory outcomes start ssl).Balanced := readyMemory_balanced.2 fun _ => rfl
      have unborn : ∀ o ∈ others, (readyMemory outcomes start ssl).life o = .unborn := fun o other => readyMemory_other other
      generalize readyMemory outcomes start ssl = m at *
      rw [leaves_bind, leaves_zalloc]
      cases outcomes.bufMemory with
      | false =>
        rw [others_forall] at unborn
        simp [ready.atExit, balanced, others_forall, unborn]
      | true =>
        simp only [if_true, onward_ok]
        rw [stream_sent ready balanced unborn]
        simp
  · exact fun e m' freed => not_goes_exit_freed freed

/-- The response, after the setup. -/
theorem method_responded (ready : Ready outcomes m ssl) (balanced : m.Balanced)
    (lives : ∀ o ∈ others, m.life o = if o = .headers then .live else .unborn) :
    Leaves (do
      tlsRequest outcomes ssl
      if outcomes.sent < 0 ∨ outcomes.entityLen ≤ 0 then
        free .response
        throw .httpError
      zalloc .text outcomes.textMemory
      use .response
      free .response : Body Unit)
      (fun r m => m.life .headers = .live ∧ AtExit (result r) (m.become .headers .freed)) (m.become .response .live) ↔
    (∀ a ∈ ssl, KeepsNothing outcomes.setup a) ∧ (∀ a ∈ ssl, RandomServed outcomes a) ∧
      (0 ≤ outcomes.sent → 0 < outcomes.entityLen → outcomes.textMemory = true) := by
  have during : Ready outcomes (m.become .response .live) ssl := ready.become (by decide)
  have after : Ready outcomes (servedMemory (asked outcomes ssl) (m.become .response .live)) ssl := during.congr fun _ _ => rfl
  have balanced' : (m.become .response .live).Balanced := balanced
  have sent := fun ret {m' : Memory} (ready' : Ready outcomes m' ssl) counted => ready'.sent_atExit ret balanced' counted
  rw [others_forall] at lives
  simp only [leaves_bind, leaves_lift, goes_tlsRequest during, onward_ok]
  by_cases failed : outcomes.sent < 0 ∨ outcomes.entityLen ≤ 0
  · simp only [failed, ↓reduceIte, ExceptT.bind_throw, leaves_bind, leaves_throw, result_error, leaves_lift, goes_free,
      servedMemory_life, become_life, onward_ok, reduceCtorEq, lives, true_and, Option.mem_def]
    rw [sent _ ((after.become (by decide)).become (by decide)) Iff.rfl, others_forall]
    simp [lives]
    exact fun _ _ sent len => by omega
  · cases outcomes.textMemory with
    | false =>
      simp only [failed, ↓reduceIte, leaves_bind, leaves_lift, goes_free, become_life, reduceCtorEq, result_ok, goes_use, onward_ok,
        and_self_left, leaves_zalloc, Bool.false_eq_true, onward_error, servedMemory_life, lives, result_error, true_and,
        Option.mem_def, imp_false, not_lt]
      rw [sent _ (after.become (by decide)) Iff.rfl, others_forall]
      simp [lives]
      exact fun _ _ => by omega
    | true =>
      simp only [failed, ↓reduceIte, leaves_bind, leaves_lift, goes_free, become_life, reduceCtorEq, result_ok, goes_use, onward_ok,
        and_self_left, leaves_zalloc, servedMemory_life, lives, true_and, Option.mem_def, implies_true, and_true]
      rw [sent _ (((after.become (by decide)).become (by decide)).become (by decide)) Iff.rfl, others_forall]
      simp [lives]

theorem method_iff : Tidy (httpMethod outcomes ssl) ↔ MethodTidy outcomes ssl := by
  rw [Tidy, httpMethod, MethodTidy, goes_ite]
  by_cases created : outcomes.headersInit < 0
  · simp only [created, if_true, goes_pure, true_or, iff_true]
    exact ⟨fun _ live => (by cases live), fun _ => rfl⟩
  · have fresh : ∀ o, o ∉ others → ((start : Memory).become .headers .live).life o = .unborn := by
      intro o none
      cases o <;> first | rfl | exact (none (by decide)).elim
    simp only [created, if_false, false_or, goes_bind, goes_alloc, give_true, goes_use, become_life, if_true, true_and, goes_free, goes_pure]
    change Leaves (methodBody outcomes ssl) (fun r m => m.life .headers = .live ∧ AtExit (result r) (m.become .headers .freed))
      (start.become .headers .live) ↔ _
    rw [methodBody, leaves_bind, leaves_setupRequest ?_ fresh]
    · by_cases noConfig : NoConfig outcomes ssl
      · have left : AtExit .noMem (((start : Memory).become .headers .live).become .headers .freed) := by
          refine (goes_exit_unborn rfl).2 ⟨fun o live => ?_, fun _ => rfl⟩
          cases o <;> cases live
        simp [noConfig, left]
      · simp only [noConfig, false_and, false_or, not_false_eq_true, true_and, onward_ok, SetupTidy, forall_and, and_assoc]
        refine and_congr_right fun done => ?_
        have ready : Ready outcomes (readyMemory outcomes (start.become .headers .live) ssl) ssl := ready_setup done fresh
        have balanced : (readyMemory outcomes (start.become .headers .live) ssl).Balanced := readyMemory_balanced.2 fun _ => rfl
        have lives : ∀ o ∈ others, (readyMemory outcomes (start.become .headers .live) ssl).life o = if o = .headers then .live else .unborn :=
          fun o other => (readyMemory_other other).trans (by simp [start])
        generalize readyMemory outcomes (start.become .headers .live) ssl = m at *
        rw [leaves_bind, leaves_lift, goes_alloc, onward_ok, leaves_bind, leaves_check]
        by_cases responded : 0 ≤ outcomes.responseInit
        · simp only [responded, decide_true, if_true, onward_ok, give_true, forall_true_left]
          exact method_responded ready balanced lives
        · have exits := (ready.become (l := .freed) (show Object.headers ∈ others by decide)).atExit .httpError
          rw [others_forall] at exits lives
          simp [responded, lives, exits, balanced]
    · rintro e m' freed ⟨-, exits⟩
      exact not_goes_exit_freed (by simp [freed]) exits

/-- No step fails. -/
def Setup.succeeds : Setup where
  configMemory := true
  sslMemory := true
  tlsConfMemory := true
  entropyMemory := true
  ctrDrbgMemory := true
  ctrDrbgSeed := 0
  configDefaults := 0
  securityModule := true
  certMemory := true
  pkeyMemory := true
  request := .ok
  getCertificate := (.ok, true)
  getRootCa := (.ok, true)
  certParse := 0
  pkInfo := true
  pkSetup := 0
  parseKey := 0
  ownCert := 0
  ownCertKeeps := false
  rootCaMemory := true
  rootCaParse := 0

def Outcomes.succeeds : Outcomes where
  setup := .succeeds
  headersInit := 0
  bufMemory := true
  responseInit := 0
  randomCalls := []
  sent := 0
  entityLen := 1
  textMemory := true

/-- The root CA certificate does not parse, and there is nothing else to be set up. -/
def badRootCa : Outcomes := { Outcomes.succeeds with setup := { Setup.succeeds with rootCaParse := -1 } }

end ArtikSdk.Http.Tls
