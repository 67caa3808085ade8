import ScarcityRouter.ControlPlane.Administration
import ScarcityRouter.ControlPlane.WorkerReports
import ScarcityRouter.Gateway.Errors

namespace ScarcityRouter

open ScarcityRouter.Lib
open ScarcityRouter.Lib.Stateful

/-!
# Revoking client keys

`service_revoke_client_key` of `control_api.py` writes the store first and has the application
rebuilt then: the revocation is enforced by what is published, and only then.

* `ControlPlane.currentExecutionAuthority` — what an admitted request is checked against.
* `keyMachine` — the writers of the keys and of the application, in any interleaving: the store is
  written without the state lock, the application with it.
* `PublishesRevocations` — the runs in which every revocation reaches the application, and
  `revocations_final` — **there a revocation is final.**
* `runs_saveConfig`, `runs_combinedReport`, … — the methods, each run alone, are runs of the
  machine.
-/

variable {A : Type}

namespace ControlPlane

/-! ### The authority of a client -/

/-- The directory of the published application. -/
def directory (plane : ControlPlane A) : IdDict String :=
  plane.application.content.clientKeyDirectory

/-- `_current_execution_authority`. -/
def currentExecutionAuthority (plane : ControlPlane A) (clientId : SafeId) :
    Except GatewayError (ResourceRegistry × AdministratorConstraints × ClientAuthorization ×
      Constructed A) :=
  let application := plane.application.content
  if (application.clientKeyDirectory.row? clientId).isNone then
    .error (.permission "the inference client's authority has been revoked"
      (some "unauthorized_target"))
  else
    let grant := (application.clientAuthorizations.row? clientId).elim {} Prod.snd
    .ok (application.registry, application.adminConstraints, grant, application.adapters)

/-! ### The revocation -/

/-- `revoke_client_key` of the store: it finds an active key, or it changes nothing. -/
def revokeClientKey (clientId : SafeId) (clientKeys : Table ClientKeyRow.clientId) :
    Option (Table ClientKeyRow.clientId) :=
  match clientKeys.row? clientId with
  | none => none
  | some row =>
    if row.revoked then none
    else some (clientKeys.modify clientId (fun row => { row with revoked := true }) fun _ => rfl)

/-- The statement of `revoke_client_key`. -/
def setKeys (clientKeys : Table ClientKeyRow.clientId) (plane : ControlPlane A) :
    ControlPlane A :=
  { plane with tables := { plane.tables with clientKeys } }

/-- `service_revoke_client_key`; `statement` is what the store raises. -/
def serviceRevokeClientKey (x : RebuildSurroundings A) (statement : Except PlaneException Unit)
    (clientId : SafeId) : Stateful PlaneException (ControlPlane A) Unit := do
  raise statement
  let plane ← get
  match revokeClientKey clientId plane.tables.clientKeys with
  | none => throw (.notFound (.stated "unknown client id"))
  | some clientKeys =>
    modify (setKeys clientKeys)
    rebuildApplication x

end ControlPlane

open ControlPlane

/-! ### The machine -/

/-- The writer that holds the state lock. -/
structure LockHolder where
  /-- The client whose revocation it is to publish. -/
  revokes : Option SafeId
  /-- The directory of the application that it found, which a report restores. -/
  found : IdDict String
  /-- What its rebuild has read of the keys. -/
  read : Option (IdDict String) := none

/-- The state of the server, the revocations that are written to the store and have neither
    returned nor raised, and the writer that holds the lock. -/
structure KeyRun (A : Type) where
  plane : ControlPlane A
  revoking : List SafeId := []
  holder : Option LockHolder := none

/-- A step of one of the writers. -/
inductive KeyAction (A : Type) where
  /-- `add_client_key` of the store. -/
  | addClientKey (row : ClientKeyRow)
  /-- `revoke_client_key` of the store. -/
  | revokeClientKey (clientId : SafeId)
  /-- A rebuild, a save or a report takes the state lock. -/
  | lock (revokes : Option SafeId)
  /-- `active_client_key_hashes`. -/
  | readClientKeys
  /-- The holder of the lock writes: anything but the keys. -/
  | work (plane : ControlPlane A)
  /-- The holder returns, or raises. -/
  | leave (raises : Bool)

/-- What a step has shown. -/
inductive KeyEvent where
  /-- A revocation was refused, as that of an unknown client; whether the application honours the
      key. -/
  | unknown (clientId : SafeId) (honoured : Bool)
  /-- A revocation that was written has returned or raised. -/
  | settled (clientId : SafeId)
  deriving DecidableEq

namespace KeyRun

/-- The directories that the holder of the lock may publish: that of the application, that of the
    application it found, and the one it has read. -/
def publishable (holder : LockHolder) (plane : ControlPlane A) : List (IdDict String) :=
  plane.directory :: holder.found :: holder.read.toList

/-- The end of the work of the holder: a revocation that returns has published what it read. -/
def leave (raises : Bool) (holder : LockHolder) (s : KeyRun A) :
    Option (KeyRun A × List KeyEvent) :=
  match holder.revokes with
  | none => some ({ s with holder := none }, [])
  | some clientId =>
    if raises ∨ holder.read = some s.plane.directory then
      some ({ s with
        revoking := s.revoking.filter (· ≠ clientId)
        holder := none }, [.settled clientId])
    else none

def step (s : KeyRun A) : KeyAction A → Option (KeyRun A × List KeyEvent)
  | .addClientKey row =>
    if (s.plane.tables.clientKeys.row? row.clientId).isNone then
      some ({ s with plane := insertKey { row with revoked := false } s.plane }, [])
    else some (s, [])
  | .revokeClientKey clientId =>
    match revokeClientKey clientId s.plane.tables.clientKeys with
    | none => some (s, [.unknown clientId (s.plane.directory.row? clientId).isSome])
    | some clientKeys => some ({ s with
        plane := setKeys clientKeys s.plane
        revoking := s.revoking ++ [clientId] }, [])
  | .lock revokes =>
    if s.holder.isNone ∧ ∀ clientId ∈ revokes, clientId ∈ s.revoking then
      some ({ s with holder := some ⟨revokes, s.plane.directory, none⟩ }, [])
    else none
  | .readClientKeys => s.holder.map fun holder =>
    ({ s with
      holder := some { holder with read := activeClientKeyHashes s.plane.tables.clientKeys } }, [])
  | .work plane =>
    match s.holder with
    | none => none
    | some holder =>
      if plane.tables.clientKeys = s.plane.tables.clientKeys ∧
          plane.directory ∈ publishable holder s.plane then
        some ({ s with plane }, [])
      else none
  | .leave raises =>
    match s.holder with
    | none => none
    | some holder => s.leave raises holder

end KeyRun

/-- The writers of the keys and of the application. -/
def keyMachine (A : Type) : Machine (KeyRun A) (KeyAction A) KeyEvent := ⟨KeyRun.step⟩

/-- **Every revocation reaches the application**: its rebuild does not raise, and it is not
    requested again before it is done, while the application has the key. -/
def PublishesRevocations (s : KeyRun A) : KeyAction A → Prop
  | .leave true => ∀ holder ∈ s.holder, ∀ clientId ∈ holder.revokes,
      s.plane.directory.row? clientId = none
  | .revokeClientKey clientId => clientId ∈ s.revoking → s.plane.directory.row? clientId = none
  | _ => True

/-- **Revocations are final.** -/
structure RevocationsFinal (s : KeyRun A) (log : List KeyEvent) : Prop where
  removed : ∀ clientId, .settled clientId ∈ log → s.plane.directory.row? clientId = none
  refused : ∀ clientId, .settled clientId ∈ log →
    ∃ e, s.plane.currentExecutionAuthority clientId = .error e
  /-- A revocation is not refused while the application honours the key. -/
  repeated : ∀ clientId honoured, .unknown clientId honoured ∈ log → honoured = false

/-! ### Keys -/

section Keys

variable {clientKeys clientKeys' : Table ClientKeyRow.clientId} {clientId other : SafeId}

/-- A key that is not revoked. -/
def Active (clientKeys : Table ClientKeyRow.clientId) (clientId : SafeId) : Prop :=
  ∃ row, clientKeys.row? clientId = some row ∧ row.revoked = false

/-- A key that is revoked. -/
def Revoked (clientKeys : Table ClientKeyRow.clientId) (clientId : SafeId) : Prop :=
  ∃ row, clientKeys.row? clientId = some row ∧ row.revoked = true

theorem Revoked.not_active (h : Revoked clientKeys clientId) : ¬ Active clientKeys clientId := by
  rintro ⟨row, hrow, hactive⟩
  obtain ⟨row', hrow', hrevoked⟩ := h
  obtain rfl := Option.some.inj (hrow.symm.trans hrow')
  exact Bool.false_ne_true (hactive.symm.trans hrevoked)

/-- The keys of a directory are active when they are read. -/
theorem active_of_row?_activeClientKeyHashes
    (h : ((activeClientKeyHashes clientKeys).row? clientId).isSome = true) :
    Active clientKeys clientId := by
  obtain ⟨entry, hentry⟩ := Option.isSome_iff_exists.mp h
  obtain ⟨hmem, rfl⟩ := Table.row?_eq_some.mp hentry
  have hmem : entry ∈ sortBy Prod.fst ((clientKeys.rows.filter fun row =>
      !row.revoked && !row.observer).map fun row => (row.clientId, row.keyHash)) := hmem
  rw [(sortBy_perm _ _).mem_iff, List.mem_map] at hmem
  obtain ⟨row, hrow, rfl⟩ := hmem
  obtain ⟨hrow, hactive⟩ := List.mem_filter.mp hrow
  rw [Bool.and_eq_true, Bool.not_eq_true'] at hactive
  exact ⟨row, Table.mem_rows.mp hrow, hactive.1⟩

/-- A revocation finds no active key. -/
theorem revokeClientKey_eq_none : revokeClientKey clientId clientKeys = none ↔
    ¬ Active clientKeys clientId := by
  unfold revokeClientKey Active
  cases clientKeys.row? clientId with
  | none => simp
  | some row => cases hrevoked : row.revoked <;> simp [hrevoked]

/-- **What a revocation writes**: the one key is revoked, and the others stay. -/
theorem revokeClientKey_eq_some (h : revokeClientKey clientId clientKeys = some clientKeys') :
    Revoked clientKeys' clientId ∧
      (∀ other ≠ clientId, Active clientKeys other → Active clientKeys' other) ∧
      ∀ other, Revoked clientKeys other → Revoked clientKeys' other := by
  unfold revokeClientKey at h
  cases hrow : clientKeys.row? clientId with
  | none =>
    rw [hrow] at h
    cases h
  | some row =>
    rw [hrow] at h
    dsimp only at h
    split_ifs at h with hrevoked
    obtain rfl := Option.some.inj h
    have hself : (clientKeys.modify clientId (fun row => { row with revoked := true })
        fun _ => rfl).row? clientId = some { row with revoked := true } := by
      rw [Table.row?_modify, if_pos rfl, hrow, Option.map_some]
    have hother : ∀ other ≠ clientId, (clientKeys.modify clientId
        (fun row => { row with revoked := true }) fun _ => rfl).row? other =
          clientKeys.row? other := by
      intro other hne
      rw [Table.row?_modify, if_neg hne.symm]
    refine ⟨⟨_, hself, rfl⟩, fun other hne => ?_, fun other => ?_⟩
    · unfold Active
      rw [hother other hne]
      exact id
    · by_cases hne : other = clientId
      · subst hne
        exact fun _ => ⟨_, hself, rfl⟩
      · unfold Revoked
        rw [hother other hne]
        exact id

/-- A new key leaves the others. -/
theorem row?_put_of_isNone {row : ClientKeyRow} {found : ClientKeyRow}
    (hnew : (clientKeys.row? row.clientId).isNone = true)
    (h : clientKeys.row? clientId = some found) :
    (clientKeys.put row).row? clientId = some found := by
  rw [Table.row?_put, if_neg, h]
  rintro rfl
  rw [h] at hnew
  cases hnew

end Keys

/-! ### The invariant -/

variable {s s' : KeyRun A} {log events : List KeyEvent} {action : KeyAction A}

/-- The directories that are published, or may be. -/
def KeyRun.directories (s : KeyRun A) : List (IdDict String) :=
  s.plane.directory :: s.holder.elim [] fun holder => holder.found :: holder.read.toList

/-- A key that is in one of these directories. -/
def KeyRun.Honours (s : KeyRun A) (clientId : SafeId) : Prop :=
  ∃ directory ∈ s.directories, (directory.row? clientId).isSome = true

/-- **What holds of the keys in every state.** -/
structure KeysKept (s : KeyRun A) (log : List KeyEvent) : Prop where
  settled : ∀ clientId, .settled clientId ∈ log →
    Revoked s.plane.tables.clientKeys clientId ∧ clientId ∉ s.revoking
  revoked : ∀ clientId ∈ s.revoking, Revoked s.plane.tables.clientKeys clientId
  honoured : ∀ clientId, s.Honours clientId →
    Active s.plane.tables.clientKeys clientId ∨ clientId ∈ s.revoking
  /-- The writer that publishes a revocation has read the keys after it was written. -/
  publishing : ∀ holder ∈ s.holder, ∀ clientId ∈ holder.revokes, clientId ∈ s.revoking ∧
    ∀ read ∈ holder.read, read.row? clientId = none
  repeated : ∀ clientId honoured, .unknown clientId honoured ∈ log → honoured = false

/-- A key in the directory is honoured. -/
theorem KeyRun.honours_directory {clientId : SafeId}
    (h : (s.plane.directory.row? clientId).isSome = true) : s.Honours clientId :=
  ⟨s.plane.directory, List.mem_cons_self, h⟩

/-- A new key changes nothing for the others. -/
theorem KeysKept.addClientKey {row : ClientKeyRow} (h : KeysKept s log)
    (hnew : (s.plane.tables.clientKeys.row? row.clientId).isNone = true) :
    KeysKept { s with plane := insertKey row s.plane } log := by
  have hactive : ∀ {clientId}, Active s.plane.tables.clientKeys clientId →
      Active (s.plane.tables.clientKeys.put row) clientId :=
    fun ⟨found, hfound, hrow⟩ => ⟨found, row?_put_of_isNone hnew hfound, hrow⟩
  have hrevoked : ∀ {clientId}, Revoked s.plane.tables.clientKeys clientId →
      Revoked (s.plane.tables.clientKeys.put row) clientId :=
    fun ⟨found, hfound, hrow⟩ => ⟨found, row?_put_of_isNone hnew hfound, hrow⟩
  exact
    { settled := fun clientId hsettled => (h.settled clientId hsettled).imp_left hrevoked
      revoked := fun clientId hmem => hrevoked (h.revoked clientId hmem)
      honoured := fun clientId hhonours => (h.honoured clientId hhonours).imp_left hactive
      publishing := h.publishing
      repeated := h.repeated }

/-- A revocation that is written is in progress. -/
theorem KeysKept.revokeClientKey {clientId : SafeId} {clientKeys : Table ClientKeyRow.clientId}
    (h : KeysKept s log)
    (hkeys : ControlPlane.revokeClientKey clientId s.plane.tables.clientKeys = some clientKeys) :
    KeysKept { s with
      plane := setKeys clientKeys s.plane
      revoking := s.revoking ++ [clientId] } log := by
  obtain ⟨hself, hactive, hrevoked⟩ := revokeClientKey_eq_some hkeys
  have hfound : Active s.plane.tables.clientKeys clientId := by
    by_contra hnone
    rw [revokeClientKey_eq_none.mpr hnone] at hkeys
    cases hkeys
  refine
    { settled := fun other hsettled => ?_
      revoked := fun other hmem => ?_
      honoured := fun other hhonours => ?_
      publishing := fun holder hholder other hother => ?_
      repeated := h.repeated }
  · obtain ⟨hother, hdone⟩ := h.settled other hsettled
    refine ⟨hrevoked other hother, fun hmem => ?_⟩
    rcases List.mem_append.mp hmem with hmem | hmem
    · exact hdone hmem
    · -- A key whose revocation is settled is not active.
      obtain rfl := List.mem_singleton.mp hmem
      exact hother.not_active hfound
  · rcases List.mem_append.mp hmem with hmem | hmem
    · exact hrevoked other (h.revoked other hmem)
    · obtain rfl := List.mem_singleton.mp hmem
      exact hself
  · by_cases hne : other = clientId
    · exact .inr (List.mem_append_right _ (List.mem_singleton.mpr hne))
    · exact (h.honoured other hhonours).imp (hactive other hne) (List.mem_append_left _)
  · exact (h.publishing holder hholder other hother).imp_left (List.mem_append_left _)

/-- The writer that takes the lock finds the application that is published. -/
theorem KeysKept.lock {revokes : Option SafeId} (h : KeysKept s log)
    (hrevokes : ∀ clientId ∈ revokes, clientId ∈ s.revoking) :
    KeysKept { s with holder := some ⟨revokes, s.plane.directory, none⟩ } log where
  settled := h.settled
  revoked := h.revoked
  honoured clientId := by
    rintro ⟨directory, hmem, hrow⟩
    have hsame : directory = s.plane.directory := by
      rcases List.mem_cons.mp hmem with rfl | hmem
      · rfl
      · exact List.mem_singleton.mp hmem
    rw [hsame] at hrow
    exact h.honoured clientId (KeyRun.honours_directory hrow)
  publishing := by
    rintro holder hholder clientId hclient
    obtain rfl := Option.some.inj hholder
    exact ⟨hrevokes clientId hclient, nofun⟩
  repeated := h.repeated

/-- What is read of the keys is active, and has no revocation in progress. -/
theorem KeysKept.readClientKeys {holder : LockHolder} (h : KeysKept s log)
    (hholder : s.holder = some holder) :
    KeysKept { s with holder := some { holder with
      read := activeClientKeyHashes s.plane.tables.clientKeys } } log where
  settled := h.settled
  revoked := h.revoked
  honoured clientId := by
    rintro ⟨directory, hmem, hrow⟩
    have hcases : directory ∈ s.directories ∨
        directory = activeClientKeyHashes s.plane.tables.clientKeys := by
      unfold KeyRun.directories
      rw [hholder]
      rcases List.mem_cons.mp hmem with rfl | hmem
      · exact .inl List.mem_cons_self
      · rcases List.mem_cons.mp hmem with rfl | hmem
        · exact .inl (List.mem_cons_of_mem _ List.mem_cons_self)
        · exact .inr (List.mem_singleton.mp hmem)
    rcases hcases with hmem | rfl
    · exact h.honoured clientId ⟨directory, hmem, hrow⟩
    · exact .inl (active_of_row?_activeClientKeyHashes hrow)
  publishing := by
    rintro holder' hholder' clientId hclient
    obtain rfl := Option.some.inj hholder'
    obtain ⟨hmem, -⟩ := h.publishing holder hholder clientId hclient
    refine ⟨hmem, fun read hread => ?_⟩
    obtain rfl := Option.some.inj hread
    rw [← Option.not_isSome_iff_eq_none]
    exact fun hrow => (h.revoked clientId hmem).not_active
      (active_of_row?_activeClientKeyHashes hrow)
  repeated := h.repeated

/-- The holder of the lock publishes nothing that is not honoured already. -/
theorem KeysKept.work {plane : ControlPlane A} {holder : LockHolder} (h : KeysKept s log)
    (hholder : s.holder = some holder)
    (hkeys : plane.tables.clientKeys = s.plane.tables.clientKeys)
    (hdirectory : plane.directory ∈ KeyRun.publishable holder s.plane) :
    KeysKept { s with plane } log where
  settled := by
    rw [hkeys]
    exact h.settled
  revoked := by
    rw [hkeys]
    exact h.revoked
  honoured clientId := by
    rintro ⟨directory, hmem, hrow⟩
    have hbefore : directory ∈ s.directories := by
      rcases List.mem_cons.mp hmem with rfl | hmem
      · unfold KeyRun.directories
        rw [hholder]
        exact hdirectory
      · exact List.mem_cons_of_mem _ hmem
    rw [hkeys]
    exact h.honoured clientId ⟨directory, hbefore, hrow⟩
  publishing := h.publishing
  repeated := h.repeated

/-- The holder leaves the application that is published. -/
theorem KeysKept.release (h : KeysKept s log) : KeysKept { s with holder := none } log where
  settled := h.settled
  revoked := h.revoked
  honoured clientId := by
    rintro ⟨directory, hmem, hrow⟩
    obtain rfl := List.mem_singleton.mp hmem
    exact h.honoured clientId (KeyRun.honours_directory hrow)
  publishing := nofun
  repeated := h.repeated

/-- A revocation is settled once the application lacks the key. -/
theorem KeysKept.settle {clientId : SafeId} (h : KeysKept s log) (hholder : s.holder = none)
    (hmem : clientId ∈ s.revoking) (hgone : s.plane.directory.row? clientId = none) :
    KeysKept { s with revoking := s.revoking.filter (· ≠ clientId) }
      (log ++ [.settled clientId]) where
  settled other hsettled := by
    rcases List.mem_append.mp hsettled with hsettled | hsettled
    · obtain ⟨hother, hdone⟩ := h.settled other hsettled
      exact ⟨hother, fun hmem => hdone (List.mem_of_mem_filter hmem)⟩
    · obtain rfl := KeyEvent.settled.inj (List.mem_singleton.mp hsettled)
      refine ⟨h.revoked other hmem, fun hmem => ?_⟩
      exact of_decide_eq_true (List.mem_filter.mp hmem).2 rfl
  revoked other hother := h.revoked other (List.mem_of_mem_filter hother)
  honoured other := by
    rintro ⟨directory, hdirectory, hrow⟩
    refine (h.honoured other ⟨directory, hdirectory, hrow⟩).imp_right fun hother => ?_
    refine List.mem_filter.mpr ⟨hother, decide_eq_true ?_⟩
    rintro rfl
    unfold KeyRun.directories at hdirectory
    rw [hholder] at hdirectory
    obtain rfl := List.mem_singleton.mp hdirectory
    rw [hgone] at hrow
    cases hrow
  publishing := by
    rw [hholder]
    nofun
  repeated other honoured hunknown := by
    rcases List.mem_append.mp hunknown with hunknown | hunknown
    · exact h.repeated other honoured hunknown
    · cases List.mem_singleton.mp hunknown

/-- **Every step keeps what holds of the keys**, if it lets no revocation be lost. -/
theorem KeysKept.step (h : KeysKept s log) (hallowed : PublishesRevocations s action)
    (hstep : s.step action = some (s', events)) : KeysKept s' (log ++ events) := by
  cases action with
  | addClientKey row =>
    simp only [KeyRun.step] at hstep
    split_ifs at hstep with hnew
    · obtain ⟨rfl, rfl⟩ := Prod.mk.inj (Option.some.inj hstep)
      rw [List.append_nil]
      exact h.addClientKey hnew
    · obtain ⟨rfl, rfl⟩ := Prod.mk.inj (Option.some.inj hstep)
      rwa [List.append_nil]
  | revokeClientKey clientId =>
    simp only [KeyRun.step] at hstep
    cases hkeys : ControlPlane.revokeClientKey clientId s.plane.tables.clientKeys with
    | none =>
      rw [hkeys] at hstep
      obtain ⟨rfl, rfl⟩ := Prod.mk.inj (Option.some.inj hstep)
      -- A key that is honoured is active, or its revocation is in progress.
      have hgone : (s.plane.directory.row? clientId).isSome = false := by
        by_contra hfound
        rw [Bool.not_eq_false] at hfound
        rcases h.honoured clientId (KeyRun.honours_directory hfound) with hactive | hmem
        · exact revokeClientKey_eq_none.mp hkeys hactive
        · rw [hallowed hmem] at hfound
          cases hfound
      refine { h with settled := fun other hsettled => ?_, repeated := fun other honoured hmem => ?_ }
      · rcases List.mem_append.mp hsettled with hsettled | hsettled
        · exact h.settled other hsettled
        · cases List.mem_singleton.mp hsettled
      · rcases List.mem_append.mp hmem with hmem | hmem
        · exact h.repeated other honoured hmem
        · obtain ⟨rfl, rfl⟩ := KeyEvent.unknown.inj (List.mem_singleton.mp hmem)
          exact hgone
    | some clientKeys =>
      rw [hkeys] at hstep
      obtain ⟨rfl, rfl⟩ := Prod.mk.inj (Option.some.inj hstep)
      rw [List.append_nil]
      exact h.revokeClientKey hkeys
  | lock revokes =>
    simp only [KeyRun.step] at hstep
    split_ifs at hstep with hfree
    obtain ⟨rfl, rfl⟩ := Prod.mk.inj (Option.some.inj hstep)
    rw [List.append_nil]
    exact h.lock hfree.2
  | readClientKeys =>
    obtain ⟨holder, hholder, hstep⟩ := Option.map_eq_some_iff.mp hstep
    obtain ⟨rfl, rfl⟩ := Prod.mk.inj hstep
    rw [List.append_nil]
    exact h.readClientKeys hholder
  | work plane =>
    simp only [KeyRun.step] at hstep
    cases hholder : s.holder with
    | none =>
      rw [hholder] at hstep
      cases hstep
    | some holder =>
      rw [hholder] at hstep
      dsimp only at hstep
      split_ifs at hstep with hwork
      obtain ⟨rfl, rfl⟩ := Prod.mk.inj (Option.some.inj hstep)
      rw [List.append_nil, ← hholder]
      exact h.work hholder hwork.1 hwork.2
  | leave raises =>
    simp only [KeyRun.step] at hstep
    cases hholder : s.holder with
    | none =>
      rw [hholder] at hstep
      cases hstep
    | some holder =>
      rw [hholder] at hstep
      dsimp only at hstep
      unfold KeyRun.leave at hstep
      cases hrevokes : holder.revokes with
      | none =>
        rw [hrevokes] at hstep
        obtain ⟨rfl, rfl⟩ := Prod.mk.inj (Option.some.inj hstep)
        rw [List.append_nil]
        exact h.release
      | some clientId =>
        rw [hrevokes] at hstep
        dsimp only at hstep
        split_ifs at hstep with hends
        obtain ⟨rfl, rfl⟩ := Prod.mk.inj (Option.some.inj hstep)
        obtain ⟨hmem, hread⟩ := h.publishing holder hholder clientId hrevokes
        refine h.release.settle rfl hmem ?_
        -- It raises where the application lacks the key, or returns once it has published.
        cases raises with
        | true => exact hallowed holder hholder clientId hrevokes
        | false =>
          rcases hends with hraises | hpublished
          · cases hraises
          · exact hread _ hpublished

/-! ### Revocations -/

variable {x : RebuildSurroundings A} {start : ControlPlane A}

/-- At the start every key of the application is active. -/
theorem keysKept_start (h : ComposedFrom x start) : KeysKept { plane := start } [] where
  settled := nofun
  revoked := nofun
  honoured clientId := by
    rintro ⟨directory, hmem, hrow⟩
    obtain rfl := List.mem_singleton.mp hmem
    have hdirectory : start.directory = activeClientKeyHashes start.tables.clientKeys :=
      h.clientKeyDirectory
    rw [hdirectory] at hrow
    exact .inl (active_of_row?_activeClientKeyHashes hrow)
  publishing := nofun
  repeated := nofun

/-- What holds in every state of a run in which every revocation reaches the application. -/
theorem keysKept_of_run (h : ComposedFrom x start)
    (run : (keyMachine A).Run PublishesRevocations { plane := start } s log) : KeysKept s log :=
  run.invariant (I := KeysKept) (keysKept_start h)
    fun _ _ _ _ _ _ hkept hallowed hstep => hkept.step hallowed hstep

/-- **Revocations are final** in every run in which every one of them reaches the application. -/
theorem revocations_final {A : Type} {x : RebuildSurroundings A} {start : ControlPlane A}
    {s : KeyRun A} {log : List KeyEvent} (hstart : ComposedFrom x start)
    (run : (keyMachine A).Run PublishesRevocations { plane := start } s log) :
    RevocationsFinal s log := by
  have hkept := keysKept_of_run hstart run
  have hremoved : ∀ clientId, .settled clientId ∈ log →
      s.plane.directory.row? clientId = none := by
    intro clientId hsettled
    obtain ⟨hrevoked, hdone⟩ := hkept.settled clientId hsettled
    rw [← Option.not_isSome_iff_eq_none]
    intro hrow
    rcases hkept.honoured clientId (KeyRun.honours_directory hrow) with hactive | hmem
    · exact hrevoked.not_active hactive
    · exact hdone hmem
  refine ⟨hremoved, fun clientId hsettled => ?_, hkept.repeated⟩
  refine ⟨_, if_pos ?_⟩
  exact Option.isNone_iff_eq_none.mpr (hremoved clientId hsettled)

/-- A client with a key in the store. -/
def oneClientStored : ControlPlane Unit :=
  { firstRun with tables :=
    { clientKeys := ⟨[⟨.lit "client-1", "digest", [], false, false⟩], List.nodup_singleton _⟩ } }

/-- The application honours the key. -/
def oneClient : ControlPlane Unit :=
  ((rebuildApplication quietSurroundings).result oneClientStored).2

/-- Its application is composed of what is stored. -/

theorem oneClient_composed : ComposedFrom quietSurroundings oneClient := by
  have hspec := rebuildApplication_spec quietSurroundings oneClientStored
  have hok : ((rebuildApplication quietSurroundings).result oneClientStored).1 = .ok () := rfl
  rw [hok] at hspec
  exact hspec.composedFrom

/-- What its revocation publishes. -/
def oneClientRevoked : ControlPlane Unit :=
  ((serviceRevokeClientKey quietSurroundings (.ok ()) (.lit "client-1")).result oneClient).2

/-- A revocation that is published. -/
theorem revocations_final_published : ∃ s log,
    (keyMachine Unit).Run PublishesRevocations { plane := oneClient } s log ∧
      log = [.settled (.lit "client-1")] ∧ RevocationsFinal s log := by
  let permitted : KeyRun Unit → KeyAction Unit → Bool := fun s action =>
    match action with
    | .leave raises => !raises
    | .revokeClientKey clientId => clientId ∉ s.revoking
    | _ => true
  obtain ⟨s, -, run⟩ := (keyMachine Unit).exists_run_of_exec permitted { plane := oneClient }
    [.revokeClientKey (.lit "client-1"), .lock (some (.lit "client-1")), .readClientKeys,
      .work oneClientRevoked, .leave false]
    (show _ = some [.settled (.lit "client-1")] by decide +kernel)
  have run : (keyMachine Unit).Run PublishesRevocations { plane := oneClient } s
      [.settled (.lit "client-1")] := by
    refine run.mono fun s action hpermitted => ?_
    cases action with
    | leave raises =>
      cases raises with
      | false => trivial
      | true => cases hpermitted
    | revokeClientKey clientId => exact fun hmem => absurd hmem (of_decide_eq_true hpermitted)
    | _ => trivial
  exact ⟨s, _, run, rfl, revocations_final oneClient_composed run⟩

/-- A revocation of its key, whose rebuild raises. -/
def lostRevocation : List (KeyAction Unit) :=
  [.revokeClientKey (.lit "client-1"), .lock (some (.lit "client-1")), .leave true]

/-- A revocation whose rebuild raises leaves the key in the application. -/
theorem revocation_lost : ¬ ∀ (A : Type) (x : RebuildSurroundings A) (start : ControlPlane A)
    (s : KeyRun A) (log : List KeyEvent), ComposedFrom x start →
    (keyMachine A).Run (fun _ _ => True) { plane := start } s log → RevocationsFinal s log := by
  intro h
  obtain ⟨⟨s, log⟩, hexec, hseen⟩ := Option.map_eq_some_iff.mp
    (show ((keyMachine Unit).exec (fun _ _ => true) { plane := oneClient } [] lostRevocation).map
        (fun r => (r.2, (r.1.plane.directory.row? (.lit "client-1")).isSome)) =
      some ([.settled (.lit "client-1")], true) by decide +kernel)
  obtain ⟨rfl, hhonoured⟩ := Prod.mk.inj hseen
  have run : (keyMachine Unit).Run (fun _ _ => True) { plane := oneClient } s
      [.settled (.lit "client-1")] :=
    (Machine.run_of_exec .refl hexec).mono fun _ _ _ => trivial
  have hfinal := h Unit quietSurroundings oneClient s _ oneClient_composed run
  rw [hfinal.removed _ List.mem_cons_self] at hhonoured
  cases hhonoured

/-! ### The methods -/

namespace ControlPlane

variable {x : RebuildSurroundings A} {plane after : ControlPlane A}

/-- What a method that holds the state lock does, as far as keys are concerned: it writes none, and
    publishes the directory that it found, or the one that it reads. -/
structure Publishes (plane after : ControlPlane A) : Prop where
  keys : after.tables.clientKeys = plane.tables.clientKeys
  directory : after.directory = plane.directory ∨
    after.directory = activeClientKeyHashes plane.tables.clientKeys

/-- What a rebuild publishes. -/
theorem Rebuilds.publishes {outcome : Except PlaneException Unit}
    (h : Rebuilds x plane outcome after) : Publishes plane after := by
  refine ⟨congrArg _ h.kept.2, ?_⟩
  cases h with
  | rebuilt hload hderive hassemble hcompose =>
    right
    have hrebuilt := (Rebuilds.rebuilt hload hderive hassemble hcompose).composedFrom
    exact hrebuilt.clientKeyDirectory
  | _ => exact .inl rfl

/-- What a save publishes. -/
theorem publishes_saveConfig {x : SaveSurroundings A} {config : ServerConfiguration} :
    Publishes plane ((saveConfig x config).result plane).2 := by
  have hspec := saveConfig_spec x config plane
  generalize (saveConfig x config).result plane = ended at hspec ⊢
  obtain ⟨outcome, after⟩ := ended
  dsimp only at hspec ⊢
  cases hspec with
  | rejected => exact ⟨rfl, .inl rfl⟩
  | unbuilt _ hrebuild => exact ⟨hrebuild.publishes.keys, hrebuild.publishes.directory⟩
  | unwritten _ hrebuild => exact ⟨hrebuild.publishes.keys, hrebuild.publishes.directory⟩
  | saved _ hrebuild => exact ⟨hrebuild.publishes.keys, hrebuild.publishes.directory⟩

/-- After an adoption, the directory is the one that it found, or the one that it reads. -/
theorem Adopted.publishes {x : CombinedSurroundings A} {report : WorkerStateReport}
    {inventories : List ModelInventoryReport} {i : ℕ}
    (h : Adopted x report i inventories plane after) : Publishes plane after := by
  induction h with
  | none => exact ⟨rfl, .inl rfl⟩
  | next hworker hbelongs hsources hrebuild hrest ih =>
    have hrebuilt := hrebuild.publishes
    refine ⟨ih.keys.trans hrebuilt.keys, ?_⟩
    rcases ih.directory with hkept | hread
    · rw [hkept]
      exact hrebuilt.directory
    · rw [hread, hrebuilt.keys]
      exact .inr rfl

/-- What a combined report publishes. -/
theorem publishes_combinedReport {x : CombinedSurroundings A} {report : WorkerStateReport}
    {inventories : List ModelInventoryReport} :
    Publishes plane ((applyCombinedWorkerReport x report inventories).result plane).2 := by
  have hspec := applyCombinedWorkerReport_spec x report inventories plane
  apply Leaves.state
  refine hspec.mono (fun _ after hfound => ⟨congrArg _ hfound.unwritten.2, .inl ?_⟩) ?_
  · unfold directory
    rw [hfound.application]
  · rintro accepted after ⟨staged, registry, hadopted, -, -, -, rfl⟩
    have hsame : ∀ {plane : ControlPlane A}, (stageCopy inventories plane).directory =
        plane.directory := by
      intro plane
      unfold stageCopy
      split_ifs <;> rfl
    refine ⟨?_, ?_⟩
    · show (stageCopy inventories staged).tables.clientKeys = _
      rw [← hadopted.publishes.keys]
      unfold stageCopy
      split_ifs <;> rfl
    · show (stageCopy inventories staged).directory = _ ∨ (stageCopy inventories staged).directory = _
      rw [hsame]
      exact hadopted.publishes.directory

/-! ### Their runs -/

/-- From a state in which nobody holds the lock, a method that runs alone is a run of the
    machine. -/
def RunsAlone (plane after : ControlPlane A) (log : List KeyEvent) : Prop :=
  (keyMachine A).Run (fun _ _ => True) { plane } { plane := after } log

section Locked

variable {s start : KeyRun A} {log : List KeyEvent}

/-- A method takes the state lock, reads the keys and writes. -/
theorem Publishes.locked (h : Publishes s.plane after) (revokes : Option SafeId)
    (hfree : s.holder = none) (hrevokes : ∀ clientId ∈ revokes, clientId ∈ s.revoking)
    (run : (keyMachine A).Run (fun _ _ => True) start s log) :
    (keyMachine A).Run (fun _ _ => True) start { s with
      plane := after
      holder := some ⟨revokes, s.plane.directory,
        some (activeClientKeyHashes s.plane.tables.clientKeys)⟩ } log := by
  have hlock : s.step (.lock revokes) =
      some ({ s with holder := some ⟨revokes, s.plane.directory, none⟩ }, []) := by
    simp only [KeyRun.step]
    exact if_pos ⟨Option.isNone_iff_eq_none.mpr hfree, hrevokes⟩
  have hwork : after.directory ∈ KeyRun.publishable ⟨revokes, s.plane.directory,
      some (activeClientKeyHashes s.plane.tables.clientKeys)⟩ s.plane := by
    rcases h.directory with hkept | hread
    · rw [hkept]
      exact List.mem_cons_self
    · rw [hread]
      simp [KeyRun.publishable]
  have hlocked := run.step (.lock revokes) trivial hlock
  have hread := hlocked.step .readClientKeys trivial rfl
  have hwritten := hread.step (.work after) trivial (if_pos ⟨h.keys, hwork⟩)
  simp only [List.append_nil] at hwritten
  exact hwritten

/-- **A method that holds the state lock, run alone, is a run of the machine.** -/
theorem Publishes.run (h : Publishes s.plane after) (hfree : s.holder = none)
    (run : (keyMachine A).Run (fun _ _ => True) start s log) :
    (keyMachine A).Run (fun _ _ => True) start { s with plane := after } log := by
  have hleft := (h.locked none hfree nofun run).step (.leave false) trivial rfl
  rw [List.append_nil] at hleft
  obtain ⟨plane, revoking, holder⟩ := s
  obtain rfl : holder = none := hfree
  exact hleft

end Locked

/-- A rebuild runs alone. -/
theorem runs_rebuildApplication :
    RunsAlone plane ((rebuildApplication x).result plane).2 [] :=
  Publishes.run (s := { plane }) (rebuildApplication_spec _ _).publishes rfl .refl

/-- A save runs alone. -/
theorem runs_saveConfig {x : SaveSurroundings A} {config : ServerConfiguration} :
    RunsAlone plane ((saveConfig x config).result plane).2 [] :=
  Publishes.run (s := { plane }) publishes_saveConfig rfl .refl

/-- A combined report runs alone. -/
theorem runs_combinedReport {x : CombinedSurroundings A} {report : WorkerStateReport}
    {inventories : List ModelInventoryReport} :
    RunsAlone plane ((applyCombinedWorkerReport x report inventories).result plane).2 [] :=
  Publishes.run (s := { plane }) publishes_combinedReport rfl .refl

/-- **A revocation runs alone**: it is refused, or it is settled. -/
theorem runs_revokeClientKey {clientId : SafeId} :
    ∃ event, RunsAlone plane ((serviceRevokeClientKey x (.ok ()) clientId).result plane).2 [event] ∧
      (event = .settled clientId ∨
        event = .unknown clientId (plane.directory.row? clientId).isSome) := by
  unfold serviceRevokeClientKey
  rw [result_bind, result_raise]
  dsimp only
  rw [result_bind, result_get]
  dsimp only
  cases hkeys : revokeClientKey clientId plane.tables.clientKeys with
  | none =>
    refine ⟨_, ?_, .inr rfl⟩
    have hstep : KeyRun.step { plane } (.revokeClientKey clientId) =
        some ({ plane }, [.unknown clientId (plane.directory.row? clientId).isSome]) := by
      simp [KeyRun.step, hkeys]
    exact Machine.Run.refl.step (.revokeClientKey clientId) trivial hstep
  | some clientKeys =>
    refine ⟨.settled clientId, ?_, .inl rfl⟩
    rw [result_bind, result_modify]
    dsimp only
    have hrebuild := rebuildApplication_spec x (setKeys clientKeys plane)
    generalize (rebuildApplication x).result (setKeys clientKeys plane) = ended at hrebuild ⊢
    obtain ⟨outcome, after⟩ := ended
    dsimp only at hrebuild ⊢
    have hrevoke : KeyRun.step { plane } (.revokeClientKey clientId) =
        some ({ plane := setKeys clientKeys plane, revoking := [clientId] }, []) := by
      simp [KeyRun.step, hkeys]
    have hwritten := hrebuild.publishes.locked
      (s := { plane := setKeys clientKeys plane, revoking := [clientId] })
      (some clientId) rfl (fun _ h => List.mem_singleton.mpr (Option.some.inj h).symm)
      (Machine.Run.refl.step (.revokeClientKey clientId) trivial hrevoke)
    -- It raises, or it returns and has published what it read.
    have hends : (!outcome.toBool) = true ∨
        some (activeClientKeyHashes clientKeys) = some after.directory := by
      cases outcome with
      | error e => exact .inl rfl
      | ok _ =>
        have hread : after.directory = activeClientKeyHashes after.tables.clientKeys :=
          hrebuild.composedFrom.clientKeyDirectory
        rw [hread, hrebuild.publishes.keys]
        exact .inr rfl
    have hleave := hwritten.step (.leave !outcome.toBool) trivial (if_pos hends)
    simp only [List.filter_singleton, ne_eq, not_true_eq_false, decide_false, cond_false,
      List.nil_append] at hleave
    exact hleave

/-- The save of a grant publishes as a save does. -/
theorem publishes_saveGrant {x : AdminSurroundings A} {key : KeyArguments} :
    Leaves (fun _ after => Publishes plane after) (fun _ after => Publishes plane after)
      (saveGrant x plane key) plane := by
  unfold saveGrant
  cases key.grant with
  | none => exact ⟨rfl, .inl rfl⟩
  | some grant =>
    unfold saveUpdated
    simp only [leaves_bind, leaves_raise]
    exact ⟨fun _ _ => Leaves.of_result (P := fun _ after => Publishes plane after)
      publishes_saveConfig, fun _ _ => ⟨rfl, .inl rfl⟩⟩

/-- **An issue runs alone.** -/
theorem runs_issueClientKey {x : AdminSurroundings A} {document : Record} :
    RunsAlone plane ((serviceIssueClientKey x document).result plane).2 [] := by
  refine Leaves.state (P := fun after => RunsAlone plane after []) ?_
  unfold serviceIssueClientKey
  simp only [leaves_bind, leaves_raise, leaves_get]
  refine ⟨fun key hkey => ?_, fun _ _ => .refl⟩
  have hnew := Option.isNone_iff_eq_none.mpr (issueArguments_new hkey)
  refine publishes_saveGrant.mono (fun _ _ h => h.run (s := { plane }) rfl .refl)
    fun _ saved hsaved => ?_
  have hrun : RunsAlone plane saved [] := hsaved.run (s := { plane }) rfl .refl
  simp only [leaves_bind, leaves_raise, leaves_modify]
  refine ⟨fun _ _ => ?_, fun _ _ => hrun⟩
  have hadd : KeyRun.step { plane := saved } (.addClientKey (keyRow x key)) =
      some ({ plane := insertKey (keyRow x key) saved }, []) := by
    simp only [KeyRun.step]
    refine if_pos ?_
    rw [hsaved.keys]
    exact hnew
  have hadded : RunsAlone plane (insertKey (keyRow x key) saved) [] :=
    hrun.step (.addClientKey (keyRow x key)) trivial hadd
  have hrebuild := rebuildApplication_spec x.toRebuildSurroundings (insertKey (keyRow x key) saved)
  exact (Leaves.of_result (P := Rebuilds _ _) hrebuild).mono
    (fun _ _ h => h.publishes.run (s := { plane := insertKey (keyRow x key) saved }) rfl hadded)
    fun _ _ h => h.publishes.run (s := { plane := insertKey (keyRow x key) saved }) rfl hadded

/-- **Every method is a run of the machine**: whatever it is given and however it ends, it takes
    steps of `keyMachine` alone, and a revocation is settled, or refused for an unknown key. -/
theorem methods_run (plane : ControlPlane A) :
    (∀ x, RunsAlone plane ((rebuildApplication x).result plane).2 []) ∧
    (∀ x config, RunsAlone plane ((saveConfig x config).result plane).2 []) ∧
    (∀ x report inventories,
      RunsAlone plane ((applyCombinedWorkerReport x report inventories).result plane).2 []) ∧
    (∀ x document, RunsAlone plane ((serviceIssueClientKey x document).result plane).2 []) ∧
    ∀ x clientId, ∃ event,
      RunsAlone plane ((serviceRevokeClientKey x (.ok ()) clientId).result plane).2 [event] ∧
        (event = .settled clientId ∨
          event = .unknown clientId (plane.directory.row? clientId).isSome) :=
  ⟨fun _ => runs_rebuildApplication, fun _ _ => runs_saveConfig, fun _ _ _ => runs_combinedReport,
    fun _ _ => runs_issueClientKey, fun _ _ => runs_revokeClientKey⟩

end ControlPlane

end ScarcityRouter
