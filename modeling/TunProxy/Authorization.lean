import TunProxy.BypassPolicy
import TunProxy.EffectProgramSafety

/-!
# Who may control the daemon

A user may control the daemon who is root or a member of the administrators'
group.  Membership is looked up in the account database, whose list of a user's
groups is asked for a second time, with more room, when it does not fit.
-/

namespace TunProxy

open ByteText EffectProgram

/-! ## The account database -/

/-- An entry of the password file. -/
structure PasswordEntry where
  name : Bytes
  gid : Nat
  deriving DecidableEq, Repr

/-- What `getgrouplist` returns: whether it failed, the count it leaves, and
the groups it has written. -/
structure GroupList where
  failed : Bool
  count : Int
  filled : List Nat

inductive AccountCall
  | getgrnam (name : Bytes)
  | getpwuid (uid : Nat)
  | getgrouplist (name : Bytes) (gid : Nat) (count : Int)

abbrev AccountAnswer : AccountCall → Type
  | .getgrnam _ => Option Nat
  | .getpwuid _ => Option PasswordEntry
  | .getgrouplist _ _ _ => GroupList

/-! ## The lookup -/

/-- The buffer after groups have been written to it. -/
def fillGroups (groups filled : List Nat) : List Nat :=
  filled ++ groups.drop filled.length

/-- `std::vector::resize`. -/
def resizeGroups (groups : List Nat) (size : Nat) : List Nat :=
  groups.take size ++ List.replicate (size - groups.length) 0

/-- The end of `isAuthorizedUser`: the group is looked for in the buffer. -/
def searchGroups (adminGid : Nat) (groups : List Nat) (count : Int) : Bool :=
  if count ≤ 0 ∨ (groups.length : Int) < count then false
  else (groups.take count.toNat).any fun gid => gid == adminGid

/-- The part of `isAuthorizedUser` that lists the groups of an account. -/
def isInGroup (adminGid : Nat) (account : PasswordEntry) : EffectProgram AccountAnswer Bool :=
  .call (.getgrouplist account.name account.gid 16) fun first =>
  let groups := fillGroups (List.replicate 16 0) first.filled
  if first.failed then
    if first.count ≤ 0 ∨ 1024 < first.count then .done false
    else
      .call (.getgrouplist account.name account.gid first.count) fun second =>
      if second.failed then .done false
      else .done (searchGroups adminGid
        (fillGroups (resizeGroups groups first.count.toNat) second.filled) second.count)
  else .done (searchGroups adminGid groups first.count)

def isAuthorizedUser (uid primaryGid : Nat) (groupName : Bytes) :
    EffectProgram AccountAnswer Bool :=
  if uid = 0 then .done true
  else
    .call (.getgrnam (cString groupName)) fun
    | none => .done false
    | some adminGid =>
        if primaryGid = adminGid then .done true
        else
          .call (.getpwuid uid) fun
          | none => .done false
          | some account => isInGroup adminGid account

/-! ## What the database says -/

/-- An account database; the groups of a user include the one that is given. -/
structure Accounts where
  group : Bytes → Option Nat
  user : Nat → Option PasswordEntry
  groups : Bytes → Nat → List Nat

/-- How a database answers.  A list that does not fit is refused with its length. -/
def Accounts.Answers (accounts : Accounts) (operation : AccountCall)
    (answer : AccountAnswer operation) : Prop :=
  match operation, answer with
  | .getgrnam name, answer => answer = accounts.group name
  | .getpwuid uid, answer => answer = accounts.user uid
  | .getgrouplist name gid count, answer =>
      answer.count = (accounts.groups name gid).length ∧
        if ((accounts.groups name gid).length : Int) ≤ count then
          answer.failed = false ∧ answer.filled = accounts.groups name gid
        else answer.failed = true ∧ answer.filled.length ≤ count.toNat

/-- The answers of a database that changes between the calls. -/
def AnsweredBy (databases : Accounts → Prop) (operation : AccountCall)
    (answer : AccountAnswer operation) : Prop :=
  ∃ accounts, databases accounts ∧ accounts.Answers operation answer

/-- The account is listed with the group, among at most 1024 groups. -/
def Listed (databases : Accounts → Prop) (account : PasswordEntry) (gid : Nat) : Prop :=
  ∃ accounts, databases accounts ∧ gid ∈ accounts.groups account.name account.gid ∧
    (accounts.groups account.name account.gid).length ≤ 1024

/-- The user is root or a member of the group, as far as the databases tell. -/
def Authorized (databases : Accounts → Prop) (uid primaryGid : Nat) (groupName : Bytes) : Prop :=
  uid = 0 ∨ ∃ accounts gid, databases accounts ∧ accounts.group groupName = some gid ∧
    (primaryGid = gid ∨
      ∃ later account, databases later ∧ later.user uid = some account ∧
        Listed databases account gid)

/-! ## The lookup is right -/

theorem searchGroups_fillGroups {adminGid : Nat} {groups filled : List Nat}
    (fits : filled.length ≤ groups.length) :
    searchGroups adminGid (fillGroups groups filled) filled.length =
      filled.any fun gid => gid == adminGid := by
  have length : (fillGroups groups filled).length = groups.length := by
    simp only [fillGroups, List.length_append, List.length_drop]
    omega
  unfold searchGroups
  rw [length]
  split
  next outside =>
    have empty : filled = [] := List.length_eq_zero_iff.mp (by omega)
    simp [empty]
  · simp [fillGroups]

theorem length_resizeGroups (groups : List Nat) (size : Nat) :
    (resizeGroups groups size).length = size := by
  simp only [resizeGroups, List.length_append, List.length_take, List.length_replicate]
  omega

/-- What listing the groups of an account says, where every call may be
answered by another database. -/
theorem gives_isInGroup (databases : Accounts → Prop) (adminGid : Nat) (account : PasswordEntry) :
    (isInGroup adminGid account).Gives (AnsweredBy databases) fun result =>
      result = true → Listed databases account adminGid := by
  rintro first ⟨accounts, current, count, rest⟩
  split at rest
  next fits =>
    obtain ⟨succeeded, filled⟩ := rest
    simp only [succeeded, count, filled]
    intro found
    have fits : (accounts.groups account.name account.gid).length ≤ 16 := by omega
    rw [searchGroups_fillGroups (by simpa using fits)] at found
    obtain ⟨gid, member, same⟩ := List.any_eq_true.mp found
    obtain rfl := eq_of_beq same
    exact ⟨accounts, current, member, by omega⟩
  next larger =>
    simp only [rest.1, if_true]
    split
    · exact nofun
    next bounds =>
      rintro second ⟨later, currentLater, countLater, restLater⟩
      split at restLater
      next fits =>
        obtain ⟨succeeded, filled⟩ := restLater
        simp only [succeeded, countLater, filled]
        intro found
        rw [searchGroups_fillGroups (by rw [length_resizeGroups]; omega)] at found
        obtain ⟨gid, member, same⟩ := List.any_eq_true.mp found
        obtain rfl := eq_of_beq same
        exact ⟨later, currentLater, member, by omega⟩
      · simp only [restLater.1, if_true]
        exact nofun

theorem gives_isAuthorizedUser (databases : Accounts → Prop) (uid primaryGid : Nat)
    (groupName : Bytes) :
    (isAuthorizedUser uid primaryGid groupName).Gives (AnsweredBy databases) fun result =>
      result = true → Authorized databases uid primaryGid (cString groupName) := by
  unfold isAuthorizedUser
  split
  next root => exact fun _ => Or.inl root
  rintro group ⟨accounts, current, answered⟩
  obtain rfl : group = accounts.group (cString groupName) := answered
  cases found : accounts.group (cString groupName) with
  | none => exact nofun
  | some adminGid =>
      simp only
      split
      next same => exact fun _ => Or.inr ⟨accounts, adminGid, current, found, Or.inl same⟩
      rintro entry ⟨later, currentLater, answered⟩
      obtain rfl : entry = later.user uid := answered
      cases known : later.user uid with
      | none => exact nofun
      | some account =>
          refine (gives_isInGroup databases adminGid account).imp fun result listed yes => ?_
          exact Or.inr ⟨accounts, adminGid, current, found,
            Or.inr ⟨later, account, currentLater, known, listed yes⟩⟩

/-! ## The lookup finds every member -/

/-- A database that does not change finds the group among the account's. -/
theorem gives_isInGroup_complete (accounts : Accounts) (adminGid : Nat) (account : PasswordEntry) :
    (isInGroup adminGid account).Gives accounts.Answers fun result =>
      adminGid ∈ accounts.groups account.name account.gid →
        (accounts.groups account.name account.gid).length ≤ 1024 → result = true := by
  have found (member : adminGid ∈ accounts.groups account.name account.gid) :
      ((accounts.groups account.name account.gid).any fun gid => gid == adminGid) = true :=
    List.any_eq_true.mpr ⟨adminGid, member, beq_self_eq_true adminGid⟩
  rintro first ⟨count, rest⟩
  split at rest
  next fits =>
    obtain ⟨succeeded, filled⟩ := rest
    simp only [succeeded, count, filled]
    intro member small
    have fits : (accounts.groups account.name account.gid).length ≤ 16 := by omega
    rw [searchGroups_fillGroups (by simpa using fits)]
    exact found member
  next larger =>
    simp only [rest.1, if_true, count]
    split
    next outside =>
      intro member small
      omega
    next bounds =>
      rintro second ⟨countLater, restLater⟩
      rw [count, if_pos (Int.le_refl _)] at restLater
      obtain ⟨succeeded, filled⟩ := restLater
      simp only [succeeded, countLater, filled]
      intro member small
      rw [searchGroups_fillGroups (by rw [length_resizeGroups]; omega)]
      exact found member

theorem gives_isAuthorizedUser_complete (accounts : Accounts) (uid primaryGid : Nat)
    (groupName : Bytes) :
    (isAuthorizedUser uid primaryGid groupName).Gives accounts.Answers fun result =>
      Authorized (fun other => other = accounts) uid primaryGid (cString groupName) →
        result = true := by
  unfold isAuthorizedUser
  split
  · exact fun _ => rfl
  next notRoot =>
    rintro group answered
    obtain rfl : group = accounts.group (cString groupName) := answered
    have members {result : Bool}
        (member : ∀ adminGid, accounts.group (cString groupName) = some adminGid →
          (primaryGid = adminGid ∨ ∃ account, accounts.user uid = some account ∧
            adminGid ∈ accounts.groups account.name account.gid ∧
              (accounts.groups account.name account.gid).length ≤ 1024) → result = true)
        (authorized : Authorized (fun other => other = accounts) uid primaryGid
          (cString groupName)) : result = true := by
      rcases authorized with root | ⟨_, gid, rfl, found, rest⟩
      · exact absurd root notRoot
      apply member gid found
      rcases rest with same | ⟨_, account, rfl, known, _, rfl, listed⟩
      · exact Or.inl same
      · exact Or.inr ⟨account, known, listed⟩
    cases found : accounts.group (cString groupName) with
    | none => exact members fun _ impossible => by rw [found] at impossible; cases impossible
    | some adminGid =>
        simp only
        split
        · exact fun _ => rfl
        next different =>
          rintro entry answered
          obtain rfl : entry = accounts.user uid := answered
          cases known : accounts.user uid with
          | none =>
              apply members
              rintro other same (primary | ⟨account, impossible, -⟩)
              · exact absurd (primary.trans (Option.some.inj (same.symm.trans found))) different
              · rw [known] at impossible
                cases impossible
          | some account =>
              refine (gives_isInGroup_complete accounts adminGid account).imp
                fun result listed => ?_
              apply members
              rintro other same (primary | ⟨account', known', member, small⟩)
              · exact absurd (primary.trans (Option.some.inj (same.symm.trans found))) different
              · obtain rfl := Option.some.inj (known.symm.trans known')
                obtain rfl := Option.some.inj (found.symm.trans same)
                exact listed member small

/-- What a run of the lookup comes to.  Whatever changes in the account
database meanwhile, only root and members of the group are authorised; and where
nothing changes, all of them are, but for those with more than 1024 groups. -/
theorem isAuthorizedUser_exact {uid primaryGid : Nat} {groupName : Bytes} {result : Bool}
    {databases : Accounts → Prop} {last : History AccountAnswer}
    (reaches : Reaches (recording (AnsweredBy databases))
      (isAuthorizedUser uid primaryGid groupName, []) (.done result, last)) :
    (result = true → Authorized databases uid primaryGid (cString groupName)) ∧
      ∀ accounts, (databases = fun other => other = accounts) →
        (result = true ↔ Authorized databases uid primaryGid (cString groupName)) := by
  have sound := (gives_isAuthorizedUser databases uid primaryGid groupName).of_reaches reaches
  refine ⟨sound, ?_⟩
  rintro accounts rfl
  refine ⟨sound, ?_⟩
  have complete := gives_isAuthorizedUser_complete accounts uid primaryGid groupName
  have same : AnsweredBy (fun other => other = accounts) = accounts.Answers := by
    funext operation answer
    simp [AnsweredBy]
  rw [same] at reaches
  exact complete.of_reaches reaches

/-- The answer of a database to a call. -/
def Accounts.answer (accounts : Accounts) : (operation : AccountCall) → AccountAnswer operation
  | .getgrnam name => accounts.group name
  | .getpwuid uid => accounts.user uid
  | .getgrouplist name gid count =>
      let groups := accounts.groups name gid
      if (groups.length : Int) ≤ count then ⟨false, groups.length, groups⟩
      else ⟨true, groups.length, groups.take count.toNat⟩

theorem Accounts.answers_answer (accounts : Accounts) (operation : AccountCall) :
    accounts.Answers operation (accounts.answer operation) := by
  cases operation with
  | getgrnam name => rfl
  | getpwuid uid => rfl
  | getgrouplist name gid count =>
      by_cases fits : ((accounts.groups name gid).length : Int) ≤ count
      · simp [Accounts.Answers, Accounts.answer, fits]
      · simp only [Accounts.Answers, Accounts.answer, if_neg fits]
        exact ⟨trivial, trivial, List.length_take_le _ _⟩

def Accounts.respond (accounts : Accounts) : Responder AccountAnswer (History AccountAnswer) :=
  fun history operation =>
    some (accounts.answer operation, history ++ [⟨operation, accounts.answer operation⟩])

theorem Accounts.respond_within (accounts : Accounts) :
    accounts.respond.Within (recording (AnsweredBy fun other => other = accounts)) id := by
  intro history operation answer next responded
  obtain ⟨rfl, rfl⟩ := Prod.mk.inj (Option.some.inj responded)
  exact ⟨history, .refl, ⟨accounts, rfl, accounts.answers_answer operation⟩, rfl⟩

/-- A user with many groups, the administrators' last among them. -/
def crowdedAccounts : Accounts where
  group name := if name = ascii "sudo" then some 27 else none
  user uid := if uid = 1000 then some ⟨ascii "user", 1000⟩ else none
  groups _ gid := gid :: (List.range 20).map (· + 100) ++ [27]

theorem isAuthorizedUser_exact_example :
    Authorized (fun other => other = crowdedAccounts) 1000 1000 (ascii "sudo") := by
  have ran : (follow crowdedAccounts.respond (isAuthorizedUser 1000 1000 (ascii "sudo"))
      []).1.result? = some true := by
    decide +kernel
  have reaches := reaches_of_follow crowdedAccounts.respond_within ran
  exact (isAuthorizedUser_exact reaches).1 rfl

end TunProxy
