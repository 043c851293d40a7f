import TunProxy.BypassPolicyCoverage
import TunProxy.EffectProgramSafety
import TunProxy.ProxyManager

/-!
# What a start finds out

Whatever the system answers, a plan for a launch names the installed core of
the manifest's release, a valid upstream with a numeric address and a list of
CIDRs.  The state that a start records is therefore one that can be saved and
loaded again.
-/

namespace TunProxy

open ByteText EffectProgram InternetText AddressPrefix

namespace Setup

variable (setup : Setup)

/-! ## The core -/

theorem yields_verifyVersion (executable : Path) :
    (setup.verifyVersion executable).Yields (IfOk fun core =>
      core = ⟨executable, setup.manifest.version, setup.manifest.revision⟩) := by
  intro version
  simp only [done_bind]
  split
  · exact ifOk_error
  split
  · exact ifOk_error
  split
  · exact ifOk_error
  · exact fun core same => (Except.ok.inj same).symm

theorem yields_verifyCandidate (executable : Path) :
    (setup.verifyCandidate executable).Yields (IfOk fun core =>
      core = ⟨executable, setup.manifest.version, setup.manifest.revision⟩) := by
  refine (yields_true _).bind fun size _ => ?_
  split
  · exact ifOk_error
  refine (yields_true _).bind fun hash _ => ?_
  split
  · exact ifOk_error
  · exact setup.yields_verifyVersion executable

/-- The installed core of the manifest's release. -/
def IsInstalled (core : CoreInfo) : Prop :=
  core = ⟨setup.corePath, setup.manifest.version, setup.manifest.revision⟩

theorem yields_verifyInstalledCore :
    setup.verifyInstalledCore.Yields (IfOk setup.IsInstalled) := by
  refine (yields_true _).bind fun licenseHash _ => ?_
  split
  · exact ifOk_error
  · exact setup.yields_verifyCandidate _

theorem yields_installStaged (staging : Path) :
    (setup.installStaged staging).Yields (IfOk setup.IsInstalled) := by
  refine (yields_true _).bind fun licenseHash _ => ?_
  split
  · exact ifOk_error
  refine yields_andThen _ fun _ => yields_andThen _ fun _ => ?_
  exact (yields_true _).bind fun _ _ => setup.yields_verifyInstalledCore

theorem yields_extractAndInstall (archive staging : Path) :
    (setup.extractAndInstall archive staging).Yields (IfOk setup.IsInstalled) := by
  refine (yields_true _).bind fun extract _ => ?_
  split
  · exact ifOk_error
  refine (yields_true _).bind fun changed _ => ?_
  cases changed with
  | error detail => exact ifOk_error
  | ok done => exact yields_andThen _ fun _ => setup.yields_installStaged staging

theorem yields_repairStaged (archive staging : Path) :
    (setup.repairStaged archive staging).Yields (IfOk setup.IsInstalled) := by
  refine (yields_true _).bind fun download _ => ?_
  split
  · exact ifOk_error
  refine (yields_true _).bind fun archiveSize _ => ?_
  split
  · exact ifOk_error
  refine (yields_true _).bind fun archiveHash _ => ?_
  split
  · exact ifOk_error
  · exact setup.yields_extractAndInstall archive staging

theorem yields_repairCore : setup.repairCore.Yields (IfOk setup.IsInstalled) := by
  refine yields_andThen _ fun _ => yields_andThen _ fun _ => yields_andThen _ fun _ => ?_
  refine (yields_true _).bind fun _ _ => (yields_true _).bind fun _ _ => ?_
  refine (yields_true _).bind fun process _ => (yields_true _).bind fun made _ => ?_
  cases made with
  | created =>
      refine (setup.yields_repairStaged _ _).bind fun result known => ?_
      exact (yields_true _).bind fun _ _ => (yields_true _).bind fun _ _ => known
  | present => exact ifOk_error
  | failed detail => exact ifOk_error

theorem yields_ensureCore : setup.ensureCore.Yields (IfOk setup.IsInstalled) := by
  refine setup.yields_verifyInstalledCore.bind fun installed known => ?_
  cases installed with
  | ok core => exact known
  | error failure => exact (yields_true _).bind fun _ _ => setup.yields_repairCore

/-! ## The upstream -/

theorem yields_loadConfig : loadConfig.Yields (IfOk fun upstream =>
    upstream.protocol = ascii "socks5" ∧ isValidHost upstream.host = true) :=
  fun _ _ loaded => ⟨(valid_of_parseConfig loaded).1, (valid_of_parseConfig loaded).2.1⟩

/-- The address of a resolved upstream is the text of an IP address. -/
theorem yields_resolveAndProbeUpstream (upstream : Upstream) :
    (resolveAndProbeUpstream upstream).Yields (IfOk fun resolved =>
      ∃ address : IpAddress,
        resolved = ⟨upstream, inetNtop address.family address.bytes⟩) := by
  have probed (address : SocketAddress) :
      (probeAddress address).Yields (IfOk fun text =>
        ∃ found : IpAddress, text = inetNtop found.family found.bytes) := by
    refine yields_andThen _ fun _ => ?_
    cases address with
    | ip found => exact fun text same => ⟨found, (Except.ok.inj same).symm⟩
    | other => exact ifOk_error
  have all (lastError : Error) (addresses : List SocketAddress) :
      (probeAddresses upstream lastError addresses).Yields (IfOk fun resolved =>
        ∃ address : IpAddress,
          resolved = ⟨upstream, inetNtop address.family address.bytes⟩) := by
    induction addresses generalizing lastError with
    | nil => exact ifOk_error
    | cons address rest ih =>
        refine (probed address).bind fun result known => ?_
        cases result with
        | ok text =>
            obtain ⟨found, rfl⟩ := known text rfl
            exact fun resolved same => ⟨found, (Except.ok.inj same).symm⟩
        | error failure => exact ih failure
  refine (yields_true _).bind fun resolved _ => ?_
  cases resolved with
  | error detail => exact ifOk_error
  | ok addresses => exact all _ addresses

/-! ## The plan -/

/-- A plan from which a state can be recorded. -/
structure LaunchPlan.Sound (plan : LaunchPlan) : Prop where
  protocol : plan.configured.protocol = ascii "socks5"
  host : isValidHost plan.configured.host = true
  address : newline ∉ plan.resolved.address
  cidrs : ∀ cidr ∈ plan.bypassCidrs, cidr ≠ [] ∧ comma ∉ cidr ∧ newline ∉ cidr
  core : setup.IsInstalled plan.core

theorem plain_of_collectBypassPolicy {interfaces : Except Bytes (List InterfaceEntry)}
    {upstreamAddress excludedInterface : Bytes} {policy : BypassPolicy}
    (collected : collectBypassPolicy interfaces upstreamAddress excludedInterface = .ok policy) :
    ∀ cidr ∈ policy.allCidrs, cidr ≠ [] ∧ comma ∉ cidr ∧ newline ∉ cidr := by
  intro cidr member
  refine ⟨ne_nil_of_mem_allCidrs member, ?_, ?_⟩
  · exact notMem_of_mem_allCidrs (by decide) (by decide) (by decide) (by decide) collected member
  · exact notMem_of_mem_allCidrs (by decide) (by decide) (by decide) (by decide) collected member

/-- A plan whose parts were found out by one start. -/
structure LaunchPlan.Gathered (plan : LaunchPlan) : Prop where
  sound : plan.Sound setup
  address : ∃ address : IpAddress,
    plan.resolved = ⟨plan.configured, inetNtop address.family address.bytes⟩
  cidrs : ∃ interfaces policy, collectBypassPolicy interfaces plan.resolved.address
    setup.paths.tunInterface = .ok policy ∧ plan.bypassCidrs = policy.allCidrs

theorem yields_gathered : setup.makePlan.Yields (IfOk (LaunchPlan.Gathered setup)) := by
  refine yields_andThen _ fun _ => ?_
  refine yields_loadConfig.andThen fun configured valid => ?_
  refine (yields_resolveAndProbeUpstream configured).andThen fun resolved numeric => ?_
  refine (yields_true _).bind fun interfaces _ => ?_
  cases collected : collectBypassPolicy interfaces resolved.address setup.paths.tunInterface with
  | error failure => exact ifOk_error
  | ok bypass =>
      refine setup.yields_ensureCore.andThen fun core installed => ?_
      refine yields_andThen _ fun _ plan same => ?_
      obtain rfl := Except.ok.inj same
      have address : newline ∉ resolved.address := by
        obtain ⟨found, rfl⟩ := numeric
        exact notMem_inetNtop (by decide)
      have sound : LaunchPlan.Sound setup ⟨configured, resolved, bypass.allCidrs, core⟩ :=
        ⟨valid.1, valid.2, address, plain_of_collectBypassPolicy collected, installed⟩
      exact ⟨sound, numeric, interfaces, bypass, collected, rfl⟩

theorem yields_makePlan : setup.makePlan.Yields (IfOk (LaunchPlan.Sound setup)) :=
  setup.yields_gathered.imp fun _ known plan same => (known plan same).sound

/-- Program constants that can stand in a state file. -/
structure Plain : Prop where
  executable : newline ∉ setup.corePath.text
  version : newline ∉ setup.manifest.version
  someVersion : setup.manifest.version ≠ []

theorem newline_notMem_routingModeName (autoRedirect : Bool) :
    newline ∉ routingModeName autoRedirect := by
  cases autoRedirect <;> decide

theorem routingModeName_ne_nil (autoRedirect : Bool) : routingModeName autoRedirect ≠ [] := by
  cases autoRedirect <;> decide

theorem corePath_text_ne_nil : setup.corePath.text ≠ [] := by
  simp [Path.text, corePath]

variable {setup} {plan : LaunchPlan} {child : Int} {startTicks : Nat}

theorem LaunchPlan.Sound.plain (sound : LaunchPlan.Sound setup plan) (plain : setup.Plain)
    (autoRedirect : Bool) : (plan.runtimeState autoRedirect child startTicks).Plain where
  executable := by
    have same := sound.core
    simp only [LaunchPlan.runtimeState]
    rw [same]
    exact plain.executable
  coreVersion := by
    have same := sound.core
    simp only [LaunchPlan.runtimeState]
    rw [same]
    exact plain.version
  upstream := newline_notMem_formatUpstreamUri sound.protocol sound.host
  routingMode := newline_notMem_routingModeName autoRedirect
  upstreamAddress := sound.address
  phase := show newline ∉ ascii "starting" by decide
  cidrs := sound.cidrs

theorem LaunchPlan.Sound.loadable (sound : LaunchPlan.Sound setup plan) (plain : setup.Plain)
    (autoRedirect : Bool) (pid : 0 < child ∧ child < 2 ^ 31)
    (ticks : 0 < startTicks ∧ startTicks < 2 ^ 63) :
    (plan.runtimeState autoRedirect child startTicks).Loadable where
  pid := pid
  startTicks := ticks
  executable := by
    have same := sound.core
    simp only [LaunchPlan.runtimeState]
    rw [same]
    exact setup.corePath_text_ne_nil
  coreVersion := by
    have same := sound.core
    simp only [LaunchPlan.runtimeState]
    rw [same]
    exact plain.someVersion
  upstream := formatUpstreamUri_ne_nil _
  routingMode := routingModeName_ne_nil autoRedirect
  phase := Or.inl rfl

end Setup

end TunProxy
