import Chip.Access.AclInvariant
import Mathlib.Logic.Relation

/-! `AccessControl::Check` on the example delegate, and the policy it implements. -/
namespace Chip.Access

open List AclStore.EntryIteratorDelegate AclStore

-- `DeviceTypeResolver::IsDeviceTypeOnEndpoint`, which the application provides
variable (isDeviceTypeOnEndpoint : UInt32 → UInt16 → Bool)

/-- The loop over the subjects of an entry with an auth mode. -/
def checkSubjects (authMode : AuthMode) (descriptor : SubjectDescriptor) :
  List NodeId → Except ChipError Bool
  | [] => .ok false
  | subject :: rest =>
    if isOperationalNodeId subject then
      if authMode = .case then
        if subject = descriptor.subject then .ok true else checkSubjects authMode descriptor rest
      else .error .incorrectState
    else if isCASEAuthTag subject then
      if authMode = .case then
        if checkSubjectAgainstCATs descriptor.cats subject then .ok true
        else checkSubjects authMode descriptor rest
      else .error .incorrectState
    else if isGroupId subject then
      if authMode = .group then
        if subject = descriptor.subject then .ok true else checkSubjects authMode descriptor rest
      else .error .incorrectState
    else .error .incorrectState

def checkTarget (path : RequestPath) (target : Target) : Bool :=
  (target.cluster.all fun cluster => cluster = path.cluster) &&
  (target.endpoint.all fun endpoint => endpoint = path.endpoint) &&
  target.deviceType.all fun deviceType => isDeviceTypeOnEndpoint deviceType path.endpoint

/-- One turn of the loop over the entries: whether the entry allows the access. -/
def checkEntry (descriptor : SubjectDescriptor) (path : RequestPath) (privilege : Privilege)
  (entry : EntryStorage) : Except ChipError Bool :=
  if entry.mAuthMode ≠ .case ∧ entry.mAuthMode ≠ .group then .error .incorrectState
  else if entry.mAuthMode ≠ descriptor.authMode then .ok false
  else if !checkRequestPrivilegeAgainstEntryPrivilege privilege entry.mPrivilege then .ok false
  else
    match if entry.subjects = [] then .ok true
        else checkSubjects entry.mAuthMode descriptor entry.subjects with
    | .error e => .error e
    | .ok false => .ok false
    | .ok true =>
      .ok (entry.targets = [] || entry.targets.any (checkTarget isDeviceTypeOnEndpoint path))

/-- The loop over the entries. `Next` fails at the end of the list, which ends it; more
turns than there are slots are never needed. -/
def checkLoop (descriptor : SubjectDescriptor) (path : RequestPath) (privilege : Privilege)
  (iterator entry : Nat) : Nat → AclM Unit
  | 0 => Proc.fail .internal
  | fuel + 1 => do
      match ← Proc.attempt (AclStore.next iterator entry) with
      | .error _ => Proc.fail .accessDenied
      | .ok () => do
          let st ← Proc.read
          match st.delegates.lookup entry with
          | none => Proc.fail .notImplemented
          | some ref => do
              let allowed ← Proc.lift (checkEntry isDeviceTypeOnEndpoint descriptor path privilege
                (st.storageAt ref))
              if allowed then pure ()
              else checkLoop descriptor path privilege iterator entry fuel

/-- `AccessControl::Check`, with an `EntryIterator` and an `Entry` object of its own, that
are destroyed when it returns. The delegate leaves the decision to the entries. -/
def check (descriptor : SubjectDescriptor) (path : RequestPath) (privilege : Privilege)
  (iterator entry : Nat) : AclM Unit :=
  if descriptor.authMode = .pase then pure ()
  else do
    let result ← Proc.attempt do
      AclStore.entries iterator (some descriptor.fabricIndex)
      let st ← Proc.read
      checkLoop isDeviceTypeOnEndpoint descriptor path privilege iterator entry (st.acl.length + 1)
    AclStore.releaseEntry entry
    AclStore.releaseIterator iterator
    Proc.lift result

inductive Privilege.Grants : Privilege → Privilege → Prop where
  | proxyView : Grants .proxyView .view
  | operate : Grants .operate .view
  | manage : Grants .manage .operate
  | administerManage : Grants .administer .manage
  | administerProxyView : Grants .administer .proxyView

def Privilege.Includes : Privilege → Privilege → Prop := Relation.ReflTransGen Privilege.Grants

/-- The descriptor holds a tag with the identifier of this one and at least its version. -/
def SubjectDescriptor.Holds (descriptor : SubjectDescriptor) (tag : UInt32) : Prop :=
  ∃ held ∈ descriptor.cats, held ≠ undefinedCAT ∧
    getCASEAuthTagIdentifier held = getCASEAuthTagIdentifier tag ∧
    getCASEAuthTagVersion tag ≤ getCASEAuthTagVersion held

/-- A subject of an entry stands for the subject of the descriptor: a node or a group by
its id, a tag through the tags that the descriptor holds. -/
def SubjectDescriptor.Is (descriptor : SubjectDescriptor) (subject : NodeId) : Prop :=
  if isCASEAuthTag subject then descriptor.Holds (caseAuthTagFromNodeId subject)
  else subject = descriptor.subject

def Target.Covers (target : Target) (path : RequestPath) : Prop :=
  (∀ cluster ∈ target.cluster, cluster = path.cluster) ∧
  (∀ endpoint ∈ target.endpoint, endpoint = path.endpoint) ∧
  ∀ deviceType ∈ target.deviceType, isDeviceTypeOnEndpoint deviceType path.endpoint = true

/-- An entry allows an access to those that a predicate says are its subjects. -/
structure EntryStorage.Allows (isSubject : NodeId → Prop) (descriptor : SubjectDescriptor)
    (path : RequestPath) (privilege : Privilege) (entry : EntryStorage) : Prop where
  fabric : entry.mFabricIndex = descriptor.fabricIndex
  authMode : entry.mAuthMode = descriptor.authMode
  privilege : entry.mPrivilege.Includes privilege
  subject : entry.subjects = [] ∨ ∃ subject ∈ entry.subjects, isSubject subject
  target : entry.targets = [] ∨ ∃ target ∈ entry.targets, target.Covers isDeviceTypeOnEndpoint path

/-- The policy: commissioning over PASE may do everything, and everyone else what some
stored entry allows. -/
def Allowed (isSubject : NodeId → Prop) (descriptor : SubjectDescriptor) (path : RequestPath)
  (privilege : Privilege) (stored : List EntryStorage) : Prop :=
  descriptor.authMode = .pase ∨
    ∃ entry ∈ stored, entry.Allows isDeviceTypeOnEndpoint isSubject descriptor path privilege

theorem checkRequestPrivilege_iff {request granted : Privilege} :
  checkRequestPrivilegeAgainstEntryPrivilege request granted = true ↔
    granted.Includes request := by
  constructor
  · intro h
    cases granted with
    | view =>
      obtain rfl : request = .view := by
        simpa [checkRequestPrivilegeAgainstEntryPrivilege] using h
      exact .refl
    | proxyView =>
      have hCases : request = .proxyView ∨ request = .view := by
        simpa [checkRequestPrivilegeAgainstEntryPrivilege] using h
      rcases hCases with rfl | rfl
      · exact .refl
      · exact .single .proxyView
    | operate =>
      have hCases : request = .operate ∨ request = .view := by
        simpa [checkRequestPrivilegeAgainstEntryPrivilege] using h
      rcases hCases with rfl | rfl
      · exact .refl
      · exact .single .operate
    | manage =>
      have hCases : (request = .manage ∨ request = .operate) ∨ request = .view := by
        simpa [checkRequestPrivilegeAgainstEntryPrivilege] using h
      rcases hCases with (rfl | rfl) | rfl
      · exact .refl
      · exact .single .manage
      · exact .tail (.single .manage) .operate
    | administer =>
      cases request with
      | administer => exact .refl
      | manage => exact .single .administerManage
      | operate => exact .tail (.single .administerManage) .manage
      | view => exact .tail (.single .administerProxyView) .proxyView
      | proxyView => exact .single .administerProxyView
  · intro h
    induction h with
    | refl => cases granted <;> rfl
    | tail _ hGrants ih =>
      cases hGrants <;> cases granted <;> first | rfl | exact ih

variable {nodeId : NodeId} {descriptor : SubjectDescriptor} {path : RequestPath}

theorem not_caseAuthTag_of_operational (h : isOperationalNodeId nodeId = true) :
  isCASEAuthTag nodeId = false := by
  have hLe : nodeId.toNat ≤ 0xFFFFFFEFFFFFFFFF := by
    simp only [isOperationalNodeId, Bool.and_eq_true, decide_eq_true_eq] at h
    simpa using UInt64.le_iff_toNat_le.mp h.2
  simp only [isCASEAuthTag, Bool.and_eq_false_iff, decide_eq_false_iff_not, UInt64.le_iff_toNat_le]
  left
  simp only [UInt64.reduceToNat]
  omega

theorem not_operational_of_caseAuthTag (h : isCASEAuthTag nodeId = true) :
  isOperationalNodeId nodeId = false := by
  by_contra hNot
  rw [Bool.not_eq_false] at hNot
  rw [not_caseAuthTag_of_operational hNot] at h
  cases h

theorem of_groupId (h : isGroupId nodeId = true) :
  isOperationalNodeId nodeId = false ∧ isCASEAuthTag nodeId = false := by
  have hLe : 0xFFFFFFFFFFFF0000 ≤ nodeId.toNat := by
    simp only [isGroupId, decide_eq_true_eq] at h
    simpa using UInt64.le_iff_toNat_le.mp h
  constructor
  · simp only [isOperationalNodeId, Bool.and_eq_false_iff, decide_eq_false_iff_not,
      UInt64.le_iff_toNat_le]
    right
    simp only [UInt64.reduceToNat]
    omega
  · simp only [isCASEAuthTag, Bool.and_eq_false_iff, decide_eq_false_iff_not,
      UInt64.le_iff_toNat_le]
    right
    simp only [UInt64.reduceToNat]
    omega

theorem checkSubjectAgainstCATs_iff {subject : NodeId} (hTag : isCASEAuthTag subject = true)
  (hVersion : getCASEAuthTagVersion (caseAuthTagFromNodeId subject) ≠ 0) :
  checkSubjectAgainstCATs descriptor.cats subject = true ↔
    descriptor.Holds (caseAuthTagFromNodeId subject) := by
  have hPositive : 0 < getCASEAuthTagVersion (caseAuthTagFromNodeId subject) :=
    UInt16.pos_iff_ne_zero.mpr hVersion
  simp [checkSubjectAgainstCATs, SubjectDescriptor.Holds, hTag, hPositive, and_assoc]

/-- The subjects that `AccessControl::IsValid` lets an entry of an auth mode have. -/
def ValidSubject (authMode : AuthMode) (subject : NodeId) : Prop :=
  authMode = .case ∧ isValidCaseNodeId subject = true ∨
    authMode = .group ∧ isValidGroupNodeId subject = true

theorem checkSubjects_spec {authMode : AuthMode} (descriptor : SubjectDescriptor)
  {subjects : List NodeId} (hValid : ∀ subject ∈ subjects, ValidSubject authMode subject) :
  ∃ matched, checkSubjects authMode descriptor subjects = .ok matched ∧
    (matched = true ↔ ∃ subject ∈ subjects, descriptor.Is subject) := by
  induction subjects with
  | nil => exact ⟨false, rfl, by simp⟩
  | cons subject rest ih =>
    obtain ⟨matched, hRest, hMatched⟩ := ih fun s hs => hValid s (mem_cons_of_mem _ hs)
    -- Whatever the test of the first subject is, the loop goes on when it fails.
    have hStep : ∀ {test : Bool}, (test = true ↔ descriptor.Is subject) →
        checkSubjects authMode descriptor (subject :: rest) =
          (if test then .ok true else checkSubjects authMode descriptor rest) →
        ∃ matched, checkSubjects authMode descriptor (subject :: rest) = .ok matched ∧
          (matched = true ↔ ∃ s ∈ subject :: rest, descriptor.Is s) := by
      intro test hTest hRun
      rw [hRun]
      cases test with
      | true => exact ⟨true, rfl, by simp [hTest.mp rfl]⟩
      | false =>
        have hNot : ¬ descriptor.Is subject := fun hIs => by simpa using hTest.mpr hIs
        exact ⟨matched, hRest, by simp [hMatched, hNot]⟩
    rcases hValid subject mem_cons_self with ⟨rfl, hCase⟩ | ⟨rfl, hGroup⟩
    · rcases Bool.or_eq_true_iff.mp hCase with hNode | hTag
      · have hNotTag := not_caseAuthTag_of_operational hNode
        refine @hStep (decide (subject = descriptor.subject)) ?_ ?_
        · simp [SubjectDescriptor.Is, hNotTag]
        · simp [checkSubjects, hNode]
      · obtain ⟨hTag, hVersion⟩ := Bool.and_eq_true_iff.mp hTag
        have hNotNode := not_operational_of_caseAuthTag hTag
        refine @hStep (checkSubjectAgainstCATs descriptor.cats subject) ?_ ?_
        · rw [checkSubjectAgainstCATs_iff hTag (by simpa using hVersion)]
          simp [SubjectDescriptor.Is, hTag]
        · simp [checkSubjects, hNotNode, hTag]
    · obtain ⟨hGroup, -⟩ := Bool.and_eq_true_iff.mp hGroup
      obtain ⟨hNotNode, hNotTag⟩ := of_groupId hGroup
      refine @hStep (decide (subject = descriptor.subject)) ?_ ?_
      · simp [SubjectDescriptor.Is, hNotTag]
      · simp [checkSubjects, hNotNode, hNotTag, hGroup]

theorem checkTarget_iff {target : Target} :
  checkTarget isDeviceTypeOnEndpoint path target = true ↔
    target.Covers isDeviceTypeOnEndpoint path := by
  simp [checkTarget, Target.Covers, Option.all_eq_true, and_assoc]

theorem checkEntry_spec (path : RequestPath) (privilege : Privilege) {entry : EntryStorage}
  (hValid : entry.isValid = true) (hFabric : entry.mFabricIndex = descriptor.fabricIndex) :
  ∃ allowed, checkEntry isDeviceTypeOnEndpoint descriptor path privilege entry = .ok allowed ∧
    (allowed = true ↔
      entry.Allows isDeviceTypeOnEndpoint descriptor.Is descriptor path privilege) := by
  simp only [EntryStorage.isValid, Bool.and_eq_true] at hValid
  obtain ⟨⟨⟨-, hMode⟩, hSubjects⟩, -⟩ := hValid
  have hMode : entry.mAuthMode = .case ∨ entry.mAuthMode = .group := by
    simp only [Bool.or_eq_true, Bool.and_eq_true, decide_eq_true_eq] at hMode
    exact hMode.imp_right And.left
  have hSubjects : ∀ subject ∈ entry.subjects, ValidSubject entry.mAuthMode subject := by
    intro subject hMem
    simpa [ValidSubject] using all_eq_true.mp hSubjects subject hMem
  have hMatched : ∃ matched, (if entry.subjects = [] then .ok true
      else checkSubjects entry.mAuthMode descriptor entry.subjects) = .ok matched ∧
      (matched = true ↔
        entry.subjects = [] ∨ ∃ subject ∈ entry.subjects, descriptor.Is subject) := by
    by_cases hEmpty : entry.subjects = []
    · exact ⟨true, if_pos hEmpty, by simp [hEmpty]⟩
    · obtain ⟨matched, hRun, hIff⟩ := checkSubjects_spec descriptor hSubjects
      exact ⟨matched, (if_neg hEmpty).trans hRun, by simp [hEmpty, hIff]⟩
  obtain ⟨matched, hRun, hSubject⟩ := hMatched
  unfold checkEntry
  rw [if_neg (by tauto), hRun]
  by_cases hAuth : entry.mAuthMode = descriptor.authMode
  · rw [if_neg (not_not.mpr hAuth)]
    cases hPrivilege : checkRequestPrivilegeAgainstEntryPrivilege privilege entry.mPrivilege with
    | false =>
      refine ⟨false, rfl, ?_⟩
      simp only [Bool.false_eq_true, false_iff]
      intro hAllows
      rw [checkRequestPrivilege_iff.mpr hAllows.privilege] at hPrivilege
      cases hPrivilege
    | true =>
      rw [if_neg (by simp)]
      cases matched with
      | false =>
        refine ⟨false, rfl, ?_⟩
        simp only [Bool.false_eq_true, false_iff]
        intro hAllows
        simpa using hSubject.mpr hAllows.subject
      | true =>
        refine ⟨_, rfl, ?_⟩
        rw [Bool.or_eq_true, decide_eq_true_eq, any_eq_true]
        simp only [checkTarget_iff]
        constructor
        · intro hTarget
          exact ⟨hFabric, hAuth, checkRequestPrivilege_iff.mp hPrivilege, hSubject.mp rfl,
            hTarget⟩
        · intro hAllows
          exact hAllows.target
  · rw [if_pos hAuth]
    refine ⟨false, rfl, ?_⟩
    simp only [Bool.false_eq_true, false_iff]
    intro hAllows
    exact hAuth hAllows.authMode

def scan (descriptor : SubjectDescriptor) (path : RequestPath) (privilege : Privilege) :
  List EntryStorage → Except ChipError Unit
  | [] => .error .accessDenied
  | entry :: rest =>
    match checkEntry isDeviceTypeOnEndpoint descriptor path privilege entry with
    | .error e => .error e
    | .ok true => .ok ()
    | .ok false => scan descriptor path privilege rest

theorem scan_spec (path : RequestPath) (privilege : Privilege) {entries : List EntryStorage}
  (hValid : ∀ entry ∈ entries, entry.isValid = true)
  (hFabric : ∀ entry ∈ entries, entry.mFabricIndex = descriptor.fabricIndex) :
  (scan isDeviceTypeOnEndpoint descriptor path privilege entries = .ok () ∧
    ∃ entry ∈ entries,
      entry.Allows isDeviceTypeOnEndpoint descriptor.Is descriptor path privilege) ∨
  (scan isDeviceTypeOnEndpoint descriptor path privilege entries = .error .accessDenied ∧
    ∀ entry ∈ entries,
      ¬ entry.Allows isDeviceTypeOnEndpoint descriptor.Is descriptor path privilege) := by
  induction entries with
  | nil => exact .inr ⟨rfl, nofun⟩
  | cons entry rest ih =>
    obtain ⟨allowed, hRun, hIff⟩ := checkEntry_spec isDeviceTypeOnEndpoint path privilege
      (hValid entry mem_cons_self) (hFabric entry mem_cons_self)
    unfold scan
    rw [hRun]
    cases allowed with
    | true => exact .inl ⟨rfl, entry, mem_cons_self, hIff.mp rfl⟩
    | false =>
      have hNot : ¬ entry.Allows isDeviceTypeOnEndpoint descriptor.Is descriptor path privilege :=
        fun hAllows => by simpa using hIff.mpr hAllows
      rcases ih (fun e he => hValid e (mem_cons_of_mem _ he))
          (fun e he => hFabric e (mem_cons_of_mem _ he)) with
        ⟨hScan, e, he, hAllows⟩ | ⟨hScan, hNone⟩
      · exact .inl ⟨hScan, e, mem_cons_of_mem _ he, hAllows⟩
      · refine .inr ⟨hScan, ?_⟩
        intro e he
        rcases mem_cons.mp he with rfl | he
        · exact hNot
        · exact hNone e he

theorem filter_of_findIdx {α : Type} {p : α → Bool} {l : List α} {i : Nat}
  (h : l.findIdx? p = some i) : ∃ a, l[i]? = some a ∧ l.filter p = a :: (l.drop (i + 1)).filter p := by
  induction l generalizing i with
  | nil => cases h
  | cons a l ih =>
    rw [findIdx?_cons] at h
    by_cases ha : p a = true
    · rw [if_pos ha] at h
      cases h
      exact ⟨a, rfl, by simp [ha]⟩
    · rw [if_neg ha] at h
      obtain ⟨j, hj, rfl⟩ := Option.map_eq_some_iff.mp h
      obtain ⟨b, hb, hFilter⟩ := ih hj
      exact ⟨b, hb, by simp [ha, hFilter]⟩

theorem checkLoop_eq_scan (descriptor : SubjectDescriptor) (path : RequestPath)
  (privilege : Privilege) {iterator : Nat} (entry : Nat) {fuel : Nat} {st : AclStore}
  {delegate : EntryIteratorDelegate} (h : st.Sound)
  (hIterator : st.iterators.lookup iterator = some delegate)
  (hEntry : (st.delegates.lookup entry).isSome ∨ none ∈ st.delegates)
  (hFuel : (st.used.drop
    (start delegate st.acl.length)).length < fuel) :
  (checkLoop isDeviceTypeOnEndpoint descriptor path privilege iterator entry fuel st).1 =
    scan isDeviceTypeOnEndpoint descriptor path privilege
      ((st.used.drop (start delegate st.acl.length)).filter
        (matchesFabric delegate.mFabricIndex)) := by
  induction fuel generalizing st delegate with
  | zero => cases hFuel
  | succ fuel ih =>
    unfold checkLoop
    rcases next_spec h iterator entry with ⟨-, hNone⟩ | ⟨delegate', hIterator', hMoved, hNext⟩
    · rw [hIterator] at hNone
      cases hNone
    · rw [hIterator] at hIterator'
      cases hIterator'
      rcases hNext with ⟨hRun, hFound⟩ | ⟨slot, hFound, ⟨-, hClaim⟩ | ⟨st', hRun, hFrame, hSound, hRef⟩⟩
      · rw [Proc.attempt_bind, hRun]
        have hIdx := Option.map_eq_none_iff.mp hFound
        rw [findIdx?_eq_none_iff] at hIdx
        rw [filter_eq_nil_iff.mpr fun storage hMem => by simpa using hIdx storage hMem]
        rfl
      · exact absurd hClaim (OwnedPool.claim_ne_none _ hEntry)
      · rw [Proc.attempt_bind, hRun]
        have hLt : slot < st.used.length := found_lt hFound
        have hAcl : st'.acl = st.acl := hFrame.acl
        have hUsed : st'.used = st.used := hFrame.used
        have hLength : st.used.length ≤ st.acl.length := (takeWhile_sublist _).length_le
        have hIterator' : st'.iterators.lookup iterator =
            some (moved delegate st) := by
          rw [hFrame.iterators]
          change (st.iterators.replace iterator _).lookup iterator = _
          rw [OwnedPool.lookup_replace, if_pos rfl, hIterator]
          rfl
        have hStart : start
            (moved delegate st) st'.acl.length = slot + 1 := by
          unfold start moved
          rw [hFound, hAcl]
          exact if_pos (Nat.lt_of_lt_of_le hLt hLength)
        obtain ⟨i, hIdx, hSlot⟩ := Option.map_eq_some_iff.mp hFound
        obtain ⟨storage, hGet, hFilter⟩ := filter_of_findIdx hIdx
        rw [getElem?_drop] at hGet
        rw [drop_drop] at hFilter
        have hPlace : start delegate st.acl.length + (i + 1) =
            slot + 1 := by omega
        have hAt : st'.storageAt (.acl slot) = storage := by
          have hStored := (storageAt_acl hSound (hUsed ▸ hLt)).1
          rw [hUsed, ← hSlot, Nat.add_comm i, hGet] at hStored
          rw [← hSlot, Nat.add_comm i]
          exact (Option.some.inj hStored).symm
        have hRest := @ih st' (moved delegate st) hSound hIterator'
          (.inl (by rw [hRef]; rfl)) (by
            rw [hStart, hUsed, length_drop]
            rw [length_drop] at hFuel
            omega)
        rw [hStart, hUsed] at hRest
        rw [hFilter, hPlace]
        simp only [Proc.read_bind, hRef, hAt, scan]
        cases hCheck : checkEntry isDeviceTypeOnEndpoint descriptor path privilege storage with
        | error e => rfl
        | ok allowed =>
          cases allowed with
          | true => rfl
          | false => exact hRest

/-- The objects that `Check` makes get delegates: they own none yet, and one of each kind
is free. -/
structure AclStore.HasFreeDelegates (st : AclStore) (iterator entry : Nat) : Prop where
  iteratorNew : st.iterators.lookup iterator = none
  iteratorFree : none ∈ st.iterators
  entryNew : st.delegates.lookup entry = none
  entryFree : none ∈ st.delegates

theorem check_spec {privilege : Privilege} {iterator entry : Nat} {st : AclStore} (h : st.Sound)
  (hFree : st.HasFreeDelegates iterator entry) :
  ((check isDeviceTypeOnEndpoint descriptor path privilege iterator entry st).1 = .ok () ∧
    Allowed isDeviceTypeOnEndpoint descriptor.Is descriptor path privilege st.used) ∨
  ((check isDeviceTypeOnEndpoint descriptor path privilege iterator entry st).1 =
      .error .accessDenied ∧
    ¬ Allowed isDeviceTypeOnEndpoint descriptor.Is descriptor path privilege st.used) := by
  unfold check
  by_cases hPase : descriptor.authMode = .pase
  · rw [if_pos hPase]
    exact .inl ⟨rfl, .inl hPase⟩
  · rw [if_neg hPase, Proc.attempt_bind]
    rcases entries_spec h iterator (some descriptor.fabricIndex) with ⟨-, hClaim⟩ |
      ⟨iterators, hClaim, hRun, hSound⟩
    · exact absurd hClaim (OwnedPool.claim_ne_none _ (.inr hFree.iteratorFree))
    · have hIterator : iterators.lookup iterator = some ⟨some descriptor.fabricIndex, none⟩ := by
        rw [OwnedPool.lookup_claim hClaim, if_pos rfl]
      have hLength : st.used.length < st.acl.length + 1 :=
        Nat.lt_succ_of_le (takeWhile_sublist _).length_le
      have hScan := checkLoop_eq_scan isDeviceTypeOnEndpoint descriptor path privilege entry
        hSound hIterator (.inr hFree.entryFree) hLength
      rw [Proc.bind_ok hRun, Proc.read_bind]
      change (checkLoop _ _ _ _ _ _ _ _).1 = _ ∧ _ ∨ (checkLoop _ _ _ _ _ _ _ _).1 = _ ∧ _
      rw [hScan]
      have hOwn : ∀ storage, storage ∈ st.used.filter
            (matchesFabric (some descriptor.fabricIndex)) ↔
          storage ∈ st.used ∧ storage.mFabricIndex = descriptor.fabricIndex := by
        intro storage
        simp [matchesFabric]
      rcases scan_spec isDeviceTypeOnEndpoint path privilege
          (fun storage hMem => h.valid storage ((hOwn storage).mp hMem).1)
          (fun storage hMem => ((hOwn storage).mp hMem).2) with
        ⟨hOk, storage, hMem, hAllows⟩ | ⟨hDenied, hNone⟩
      · exact .inl ⟨hOk, .inr ⟨storage, ((hOwn storage).mp hMem).1, hAllows⟩⟩
      · refine .inr ⟨hDenied, ?_⟩
        rintro (hMode | ⟨storage, hMem, hAllows⟩)
        · exact hPase hMode
        · exact hNone storage ((hOwn storage).mpr ⟨hMem, hAllows.fabric⟩) hAllows

/-- The same subject, holding every tag of the other at the same or a higher version. -/
structure SubjectDescriptor.AtLeast (descriptor' descriptor : SubjectDescriptor) : Prop where
  fabric : descriptor'.fabricIndex = descriptor.fabricIndex
  authMode : descriptor'.authMode = descriptor.authMode
  subject : descriptor'.subject = descriptor.subject
  tags : ∀ held ∈ descriptor.cats, held ≠ undefinedCAT → descriptor'.Holds held

theorem SubjectDescriptor.AtLeast.is {descriptor' descriptor : SubjectDescriptor}
  (h : descriptor'.AtLeast descriptor) {subject : NodeId} (hIs : descriptor.Is subject) :
  descriptor'.Is subject := by
  unfold SubjectDescriptor.Is at hIs ⊢
  split_ifs at hIs ⊢ with hTag
  · obtain ⟨held, hMem, hNe, hId, hVersion⟩ := hIs
    obtain ⟨higher, hMem', hNe', hId', hVersion'⟩ := h.tags held hMem hNe
    exact ⟨higher, hMem', hNe', hId'.trans hId, UInt16.le_trans hVersion hVersion'⟩
  · rw [h.subject]
    exact hIs

theorem Allowed.mono {descriptor descriptor' : SubjectDescriptor} {privilege : Privilege}
  {stored stored' : List EntryStorage}
  (h : Allowed isDeviceTypeOnEndpoint descriptor.Is descriptor path privilege stored)
  (hStored : ∀ entry ∈ stored, entry.mFabricIndex = descriptor.fabricIndex → entry ∈ stored')
  (hAtLeast : descriptor'.AtLeast descriptor) :
  Allowed isDeviceTypeOnEndpoint descriptor'.Is descriptor' path privilege stored' := by
  rcases h with hMode | ⟨entry, hMem, hAllows⟩
  · exact .inl (hAtLeast.authMode.trans hMode)
  · refine .inr ⟨entry, hStored entry hMem hAllows.fabric, ?_⟩
    exact {
      fabric := hAllows.fabric.trans hAtLeast.fabric.symm
      authMode := hAllows.authMode.trans hAtLeast.authMode.symm
      privilege := hAllows.privilege
      subject := hAllows.subject.imp_right fun ⟨subject, hIn, hIs⟩ => ⟨subject, hIn, hAtLeast.is hIs⟩
      target := hAllows.target }

/-- Access decisions are the policy. In the store after any run, `Check` allows what the
policy allows and denies everything else; so only the set of the fabric's entries counts,
and more entries or newer tags never take access away. -/
theorem check_follows_policy (config : AclConfig) (ops : List AclOp)
    (descriptor : SubjectDescriptor) (path : RequestPath) (privilege : Privilege)
    (iterator entry : Nat) (hFree : (aclRun ops config.init).HasFreeDelegates iterator entry) :
    let st := aclRun ops config.init
    let decision := (check isDeviceTypeOnEndpoint descriptor path privilege iterator entry st).1
    (decision = .ok () ↔
      Allowed isDeviceTypeOnEndpoint descriptor.Is descriptor path privilege st.used) ∧
    (decision = .ok () ∨ decision = .error .accessDenied) ∧
    ∀ (ops' : List AclOp) (descriptor' : SubjectDescriptor) (iterator' entry' : Nat),
      (aclRun ops' config.init).HasFreeDelegates iterator' entry' →
      (∀ e ∈ st.used, e.mFabricIndex = descriptor.fabricIndex →
        e ∈ (aclRun ops' config.init).used) →
      descriptor'.AtLeast descriptor → decision = .ok () →
      (check isDeviceTypeOnEndpoint descriptor' path privilege iterator' entry'
        (aclRun ops' config.init)).1 = .ok () := by
  have hSound := aclRun_sound config.init_sound
  have hSpec := @check_spec isDeviceTypeOnEndpoint descriptor path privilege iterator entry _
    (hSound ops) hFree
  refine ⟨?_, ?_, ?_⟩
  · rcases hSpec with ⟨hOk, hAllowed⟩ | ⟨hDenied, hNot⟩
    · simp [hOk, hAllowed]
    · simp [hDenied, hNot]
  · exact hSpec.imp And.left And.left
  · intro ops' descriptor' iterator' entry' hFree' hStored hAtLeast hOk
    have hAllowed : Allowed isDeviceTypeOnEndpoint descriptor.Is descriptor path privilege
        (aclRun ops config.init).used := by
      rcases hSpec with ⟨-, hAllowed⟩ | ⟨hDenied, -⟩
      · exact hAllowed
      · rw [hDenied] at hOk
        cases hOk
    rcases @check_spec isDeviceTypeOnEndpoint descriptor' path privilege iterator' entry' _
      (hSound ops') hFree' with ⟨hOk', -⟩ | ⟨-, hNot⟩
    · exact hOk'
    · exact absurd (hAllowed.mono isDeviceTypeOnEndpoint hStored hAtLeast) hNot

/-- A list with one entry, which lets the holders of a tag view everything. -/
def tagEntryRun : List AclOp :=
  [.prepare 0, .edit 0 (.setFabricIndex 1), .edit 0 (.setAuthMode .case),
    .edit 0 (.addSubject 0xFFFFFFFD00010001), .create (some 1) 0, .releaseEntry 0]

def smallAcl : AclConfig := ⟨1, 1, 1, 1, 1, 1, 1⟩

theorem tagEntryRun_hasFreeDelegates :
  (aclRun tagEntryRun smallAcl.init).HasFreeDelegates 0 0 :=
  ⟨by decide, by decide, by decide, by decide⟩

/-- A holder of the tag, at a higher version, is allowed. -/
theorem check_follows_policy_for_tag :
    (check (fun _ _ => false) ⟨1, .case, 5, [0x00010002]⟩ ⟨6, 1⟩ .view 0 0
        (aclRun tagEntryRun smallAcl.init)).1 = .ok () ↔
      Allowed (fun _ _ => false) (SubjectDescriptor.Is ⟨1, .case, 5, [0x00010002]⟩)
        ⟨1, .case, 5, [0x00010002]⟩ ⟨6, 1⟩ .view (aclRun tagEntryRun smallAcl.init).used :=
  (check_follows_policy (fun _ _ => false) smallAcl tagEntryRun ⟨1, .case, 5, [0x00010002]⟩
    ⟨6, 1⟩ .view 0 0 tagEntryRun_hasFreeDelegates).1

/-- The node id of a tag is no subject: one that presents it without holding the tag is
denied. -/
theorem check_denies_tag_as_node :
    ¬ ∀ (config : AclConfig) (ops : List AclOp) (descriptor : SubjectDescriptor)
        (path : RequestPath) (privilege : Privilege) (iterator entry : Nat),
      (aclRun ops config.init).HasFreeDelegates iterator entry →
      ((check (fun _ _ => false) descriptor path privilege iterator entry
          (aclRun ops config.init)).1 = .ok () ↔
        Allowed (fun _ _ => false)
          (fun subject => subject = descriptor.subject ∨
            isCASEAuthTag subject = true ∧ descriptor.Holds (caseAuthTagFromNodeId subject))
          descriptor path privilege (aclRun ops config.init).used) := by
  intro hAll
  have hIff := hAll smallAcl tagEntryRun ⟨1, .case, 0xFFFFFFFD00010001, []⟩ ⟨6, 1⟩ .view 0 0
    tagEntryRun_hasFreeDelegates
  have hDenied : (check (fun _ _ => false) ⟨1, .case, 0xFFFFFFFD00010001, []⟩ ⟨6, 1⟩ .view 0 0
      (aclRun tagEntryRun smallAcl.init)).1 = .error .accessDenied := by decide
  rw [hDenied] at hIff
  have hOk := hIff.mpr (.inr ⟨⟨true, 1, .case, .view, [0xFFFFFFFD00010001], [.cleared]⟩, by decide,
    rfl, rfl, .refl, .inr ⟨_, List.mem_singleton_self _, .inl rfl⟩, .inl rfl⟩)
  cases hOk

end Chip.Access
