import ScarcityRouter.ServerStore.Recovery

namespace ScarcityRouter.Recovery

open ScarcityRouter.Lib ScarcityRouter.Lib.Stateful

/-!
# Crashes in the recovery of the server store

Every state in which a crash leaves the directory is one that the next open reclaims, and a slot
that no claim attests is never touched.

* `Recoverable` — the invariant: a stage holds a prefix of a payload, and the slot is the one its
  claim plans or owns.
* `leaves_reclaim` — **reclaiming a recoverable directory clears it**, and a crash in it leaves a
  recoverable one.
* `leaves_recoverySlot`, `leaves_guardedOpen` — so does every other operation.
* `leaves_reclaim_any` — what reclaiming does to any directory: it removes only an attested slot.
* `recovery_consistent` — **both, over every run of crashing opens.**
-/

/-! ### Rules -/

section Rules

variable {E : Stop → Disk → Prop} {V : Unit → Disk → Prop} {s : Disk}

theorem leaves_current {V : Directory → Disk → Prop} (h : V s.directory s) :
    Leaves E V current s :=
  h

/-- The rule of a step: a crash comes before it. -/
theorem leaves_fileStep {f : Directory → Directory} (hcrash : s.budget.isSome = true → E .crash s)
    (h : ∀ t, t.directory = f s.directory → t.budget.isSome = s.budget.isSome → V () t) :
    Leaves E V (fileStep f) s := by
  unfold fileStep
  rw [leaves_bind, leaves_get]
  obtain ⟨directory, budget, torn⟩ := s
  cases budget with
  | none => exact h _ rfl rfl
  | some n =>
    cases n with
    | zero => exact hcrash rfl
    | succ n => exact h _ rfl rfl

/-- The rule of an append: a crash leaves any prefix. -/
theorem leaves_append {payload : Bytes}
    (hcrash : s.budget.isSome = true → ∀ n t,
      t.directory = s.directory.staged (payload.take n) → E .crash t)
    (h : ∀ t, t.directory = s.directory.staged payload → t.budget.isSome = s.budget.isSome →
      V () t) : Leaves E V (append payload) s := by
  unfold append
  rw [leaves_bind, leaves_get]
  obtain ⟨directory, budget, torn⟩ := s
  cases budget with
  | none => exact h _ rfl rfl
  | some n =>
    cases n with
    | zero => exact hcrash rfl torn _ rfl
    | succ n => exact h _ rfl rfl

end Rules

/-! ### Identities -/

/-- The bytes of a number are its digits. -/
theorem unpack_toBytes {width n : ℕ} (h : n < 256 ^ width) : unpack (toBytes width n) = n := by
  induction width generalizing n with
  | zero =>
    rw [pow_zero, Nat.lt_one_iff] at h
    exact h.symm
  | succ width ih =>
    have hhead : n / 256 < 256 ^ width := by
      rw [pow_succ] at h
      exact Nat.div_lt_of_lt_mul (by rwa [mul_comm])
    have htail : unpack (toBytes (width + 1) n) =
        unpack (toBytes width (n / 256)) * 256 + (UInt8.ofNat n).toNat := by
      unfold unpack
      rw [toBytes, List.foldl_append]
      rfl
    rw [htail, ih hhead, UInt8.toNat_ofNat']
    omega

@[simp] theorem length_toBytes (width n : ℕ) : (toBytes width n).length = width := by
  induction width generalizing n with
  | zero => rfl
  | succ width ih => rw [toBytes, List.length_append, ih, List.length_singleton]

@[simp] theorem length_identityBytes (dev ino : UInt64) : (identityBytes dev ino).length = 32 := by
  rw [identityBytes, List.length_append, length_toBytes, length_toBytes]

/-- Sixteen bytes tell devices and inodes apart. -/
theorem toBytes_inj {a b : UInt64} (h : toBytes 16 a.toNat = toBytes 16 b.toNat) : a = b := by
  have hlt : ∀ c : UInt64, c.toNat < 256 ^ 16 := fun c =>
    lt_trans c.toNat_lt (by decide)
  refine UInt64.toNat_inj.mp ?_
  rw [← unpack_toBytes (hlt a), h, unpack_toBytes (hlt b)]

theorem identityBytes_inj {dev ino dev' ino' : UInt64}
    (h : identityBytes dev ino = identityBytes dev' ino') : dev = dev' ∧ ino = ino' := by
  obtain ⟨hdev, hino⟩ := List.append_inj h (by rw [length_toBytes, length_toBytes])
  exact ⟨toBytes_inj hdev, toBytes_inj hino⟩

/-! ### The invariant -/

/-- The contents that an interrupted write of a claim leaves. -/
def Partial (content : Bytes) : Prop :=
  content <+: planned ∨ ∃ dev ino, content <+: owned ++ identityBytes dev ino

/-- A slot of an identity, whose entries are the database's files. -/
structure Owned (store : String) (uid : ℕ) (dev ino : UInt64) (slot : SlotNode) : Prop where
  info : recoveryInfo uid true slot.info = .ok ()
  owner : slot.info.uid = uid
  dev : slot.dev = dev
  ino : slot.ino = ino
  distinct : (slot.entries.map (·.name)).Nodup
  names : ∀ entry ∈ slot.entries, entry.name ∈ allowedNames store
  infos : ∀ entry ∈ slot.entries, recoveryInfo uid false entry.info = .ok ()

/-- What a claim explains of the slot. -/
inductive Explained (store : String) (uid : ℕ) : Option FileNode → Option SlotNode → Prop
  | nothing : Explained store uid none none
  | planned {claim : FileNode} {slot : Option SlotNode}
      (info : recoveryInfo uid false claim.info = .ok ())
      (content : claim.content = Recovery.planned)
      (empty : ∀ node, slot = some node →
        recoveryInfo uid true node.info = .ok () ∧ node.info.uid = uid ∧ node.entries = []) :
      Explained store uid (some claim) slot
  | owned {claim : FileNode} {slot : Option SlotNode} {dev ino : UInt64}
      (info : recoveryInfo uid false claim.info = .ok ())
      (content : claim.content = Recovery.owned ++ identityBytes dev ino)
      (named : ∀ node, slot = some node → Owned store uid dev ino node) :
      Explained store uid (some claim) slot

/-- **The invariant of the directory.** -/
structure Recoverable (store : String) (d : Directory) : Prop where
  stage : ∀ stage, d.stage = some stage →
    recoveryInfo d.uid false stage.info = .ok () ∧ Partial stage.content
  explained : Explained store d.uid d.claim d.slot

theorem recoveryInfo_newFile (uid : ℕ) : recoveryInfo uid false (newFile uid) = .ok () := by
  simp [recoveryInfo, newFile]

/-- What an interrupted write leaves passes the checks of the stage. -/
theorem checkStage_of_partial {uid : ℕ} {stage : FileNode}
    (hinfo : recoveryInfo uid false stage.info = .ok ()) (h : Partial stage.content) :
    checkStage uid stage = .ok () := by
  have hlength : stage.content.length ≤ owned.length + 32 ∧ (stage.content <+: planned ∨
      stage.content <+: owned ∨ (owned <+: stage.content ∧
        stage.content.length ≤ owned.length + 32)) := by
    rcases h with h | ⟨dev, ino, h⟩
    · have hle := h.length_le
      have hsame : planned.length = owned.length := by decide
      exact ⟨by omega, .inl h⟩
    · have hle := h.length_le
      rw [List.length_append, length_identityBytes] at hle
      refine ⟨hle, .inr ?_⟩
      -- Either the head of the payload is complete, or not yet.
      rcases Nat.le_total stage.content.length owned.length with hshort | hlong
      · exact .inl (List.prefix_of_prefix_length_le h (List.prefix_append _ _) hshort)
      · exact .inr ⟨List.prefix_of_prefix_length_le (List.prefix_append _ _) h hlong, hle⟩
  unfold checkStage
  rw [hinfo, ok_bind, if_neg (by omega), if_pos hlength.2]

/-- A published claim passes its checks. -/
theorem checkClaim_of_explained {store : String} {uid : ℕ} {claim : FileNode}
    {slot : Option SlotNode} (h : Explained store uid (some claim) slot) :
    checkClaim uid claim = .ok () := by
  cases h with
  | planned info content empty =>
    have hlength : ¬ owned.length + 32 < planned.length := by decide
    unfold checkClaim
    rw [info, content, ok_bind, if_neg hlength, if_neg (by simp)]
  | owned info content named =>
    unfold checkClaim
    rw [info, content, ok_bind, if_neg (by simp), if_neg (by simp)]

/-- An owned slot has at most four entries. -/
theorem Owned.length_le {store : String} {uid : ℕ} {dev ino : UInt64} {slot : SlotNode}
    (h : Owned store uid dev ino slot) : slot.entries.length ≤ 4 := by
  have hsubset : slot.entries.map (·.name) ⊆ allowedNames store := by
    intro name hname
    obtain ⟨entry, hentry, rfl⟩ := List.mem_map.mp hname
    exact h.names entry hentry
  have hle := (List.subperm_of_subset h.distinct hsubset).length_le
  rwa [List.length_map] at hle

/-- The slot that a claim explains passes the checks. -/
theorem checkSlot_of_explained {store : String} {uid : ℕ} {claim : FileNode} {node : SlotNode}
    (h : Explained store uid (some claim) (some node)) :
    checkSlot store uid claim node = .ok () := by
  cases h with
  | planned info content empty =>
    obtain ⟨hinfo, -, hentries⟩ := empty node rfl
    unfold checkSlot
    rw [hinfo, content, hentries, ok_bind, if_neg (by simp), if_neg (by simp),
      if_neg (by simp)]
    exact forM_eq_ok.mpr nofun
  | @owned _ _ dev ino info content named =>
    have hnode := named node rfl
    have hlength := hnode.length_le
    unfold checkSlot
    rw [hnode.info, content]
    have hne : owned ++ identityBytes dev ino ≠ planned := by
      intro hsame
      have hlengths := congrArg List.length hsame
      rw [List.length_append, length_identityBytes] at hlengths
      have hsame : planned.length = owned.length := by decide
      omega
    rw [ok_bind, if_neg (by simp [hnode.dev, hnode.ino]), if_neg (by omega),
      if_neg (by simpa [hne] using hnode.names), hnode.owner]
    exact forM_eq_ok.mpr hnode.infos

/-- An owned slot stays one when an entry is removed. -/
theorem Owned.without {store : String} {uid : ℕ} {dev ino : UInt64} {slot : SlotNode}
    (h : Owned store uid dev ino slot) (name : String) :
    Owned store uid dev ino (slot.without name) where
  info := h.info
  owner := h.owner
  dev := h.dev
  ino := h.ino
  distinct := h.distinct.sublist (List.filter_sublist.map _)
  names entry hentry := h.names entry (List.mem_of_mem_filter hentry)
  infos entry hentry := h.infos entry (List.mem_of_mem_filter hentry)

/-- An owned slot stays one when a file of the database's family is created in it. -/
theorem Owned.create {store : String} {uid : ℕ} {dev ino : UInt64} {slot : SlotNode}
    (h : Owned store uid dev ino slot) (suffix : Suffix)
    (hnew : ∀ entry ∈ slot.entries, entry.name ≠ store ++ suffix.text) :
    Owned store uid dev ino { slot with
      entries := slot.entries ++ [⟨store ++ suffix.text, newFile uid⟩] } where
  info := h.info
  owner := h.owner
  dev := h.dev
  ino := h.ino
  distinct := by
    rw [List.map_append, List.map_singleton]
    refine h.distinct.append (List.nodup_singleton _) ?_
    rw [List.disjoint_singleton]
    intro hmem
    obtain ⟨entry, hentry, hname⟩ := List.mem_map.mp hmem
    exact hnew entry hentry hname
  names entry hentry := by
    rcases List.mem_append.mp hentry with hold | hnew
    · exact h.names entry hold
    · rw [List.mem_singleton.mp hnew]
      cases suffix <;> simp [allowedNames]
  infos entry hentry := by
    rcases List.mem_append.mp hentry with hold | hnew
    · exact h.infos entry hold
    · rw [List.mem_singleton.mp hnew]
      exact recoveryInfo_newFile uid

/-! ### Reclaiming a recoverable directory -/

/-- The directory is as said, and a crash is still possible or still is not. -/
def After (s : Disk) (d : Directory) (t : Disk) : Prop :=
  t.directory = d ∧ t.budget.isSome = s.budget.isSome

/-- A crash, where one is possible, that leaves the directory recoverable. -/
def Crashed (store : String) (s : Disk) (e : Stop) (t : Disk) : Prop :=
  e = .crash ∧ s.budget.isSome = true ∧ Recoverable store t.directory

section Reclaim

variable {store : String} {s : Disk} {d : Directory} {node : SlotNode} {claim : FileNode}

/-- A claim explains its slot without one of the entries. -/
theorem Explained.without {uid : ℕ} (h : Explained store uid (some claim) (some node))
    (name : String) : Explained store uid (some claim) (some (node.without name)) := by
  cases h with
  | planned info content empty =>
    obtain ⟨hinfo, howner, hentries⟩ := empty node rfl
    refine .planned info content fun found hfound => ?_
    obtain rfl := Option.some.inj hfound
    exact ⟨hinfo, howner, by simp [SlotNode.without, hentries]⟩
  | owned info content named =>
    refine .owned info content fun found hfound => ?_
    obtain rfl := Option.some.inj hfound
    exact (named node rfl).without name

/-- A claim explains that its slot is gone. -/
theorem Explained.removed {uid : ℕ} {slot : Option SlotNode}
    (h : Explained store uid (some claim) slot) : Explained store uid (some claim) none := by
  cases h with
  | planned info content empty => exact .planned info content nofun
  | @owned _ _ dev ino info content named =>
    exact @Explained.owned _ _ _ _ dev ino info content nofun

/-- **The loop over the entries**: what the slot keeps of a property at each step, and in the end
    none of the entries. -/
theorem leaves_unlinkEntries {P : SlotNode → Prop}
    (hP : ∀ node name, P node → P (node.without name)) (hd : s.directory = { d with slot := node })
    (h : P node) (entries : List SlotEntry) :
    Leaves
      (fun e t => e = .crash ∧ s.budget.isSome = true ∧ ∃ node, P node ∧
        t.directory = { d with slot := some node })
      (fun _ t => ∃ left, P left ∧
        left.entries = node.entries.filter (fun entry => entry.name ∉ entries.map (·.name)) ∧
        After s { d with slot := some left } t)
      (unlinkEntries entries) s := by
  induction entries generalizing s node with
  | nil => exact ⟨node, h, by simp, hd, rfl⟩
  | cons entry entries ih =>
    unfold unlinkEntries
    rw [leaves_bind]
    refine leaves_fileStep (fun hcrash => ⟨rfl, hcrash, node, h, hd⟩) fun t ht hbudget => ?_
    rw [hd] at ht
    refine (ih ht (hP node entry.name h)).mono ?_ ?_
    · rintro e t ⟨rfl, hcrash, left⟩
      exact ⟨rfl, hbudget ▸ hcrash, left⟩
    · rintro _ t ⟨left, hleft, hentries, hafter, hsame⟩
      refine ⟨left, hleft, ?_, hafter, hsame.trans hbudget⟩
      have hwithout : (node.without entry.name).entries =
          node.entries.filter (·.name ≠ entry.name) := rfl
      rw [hentries, hwithout, List.filter_filter]
      refine List.filter_congr fun x _ => ?_
      rw [Bool.eq_iff_iff]
      simp [not_or, and_comm]

/-- The removal of an explained slot. -/
theorem leaves_reclaimSlot (h : Explained store d.uid (some claim) d.slot)
    (hclaim : d.claim = some claim) (hstage : d.stage = none) (hd : s.directory = d) :
    Leaves (Crashed store s) (fun _ => After s { d with slot := none })
      (reclaimSlot store d.uid claim d.slot) s := by
  cases hslot : d.slot with
  | none =>
    refine ⟨hd.trans ?_, rfl⟩
    rw [← hslot]
  | some node =>
    rw [hslot] at h
    unfold reclaimSlot
    rw [leaves_bind, checkSlot_of_explained h]
    show Leaves _ _ (unlinkEntries node.entries >>= fun _ => rmdir) s
    rw [leaves_bind]
    have hnode : s.directory = { d with slot := some node } := by rw [hd, ← hslot]
    have hrecoverable : ∀ found, Explained store d.uid (some claim) (some found) →
        Recoverable store { d with slot := some found } := fun found hfound =>
      ⟨by simp [hstage], by simpa [hclaim] using hfound⟩
    refine (leaves_unlinkEntries (P := fun found => Explained store d.uid (some claim) (some found))
      (fun _ name h => h.without name) hnode h node.entries).mono ?_ ?_
    · rintro e t ⟨rfl, hcrash, found, hfound, ht⟩
      exact ⟨rfl, hcrash, ht ▸ hrecoverable found hfound⟩
    · rintro _ t ⟨left, hleft, hentries, ht, hsame⟩
      have hempty : left.entries = [] := by
        rw [hentries, List.filter_eq_nil_iff]
        intro entry hentry
        simpa using ⟨entry, hentry, rfl⟩
      unfold rmdir
      rw [leaves_bind]
      refine leaves_current ?_
      rw [ht, if_pos (by simp [hempty])]
      refine leaves_fileStep (fun hcrash => ⟨rfl, hsame ▸ hcrash, ht ▸ hrecoverable left hleft⟩)
        fun u hu hbudget => ⟨?_, hbudget.trans hsame⟩
      rw [hu, ht]

/-- A directory with nothing left to reclaim. -/
def cleared (uid : ℕ) : Directory := { uid }

theorem recoverable_cleared (uid : ℕ) : Recoverable store (cleared uid) := ⟨nofun, .nothing⟩

/-- **Reclaiming a recoverable directory clears it.** -/
theorem leaves_reclaim (h : Recoverable store s.directory) :
    Leaves (Crashed store s) (fun _ => After s (cleared s.directory.uid))
      (reclaimRecoverySlot store) s := by
  obtain ⟨d, budget, torn⟩ := s
  obtain ⟨uid, slot, claim, stage⟩ := d
  unfold reclaimRecoverySlot
  rw [leaves_bind]
  refine leaves_current ?_
  rw [leaves_bind]
  have hstage : Leaves (Crashed store ⟨⟨uid, slot, claim, stage⟩, budget, torn⟩)
      (fun _ => After ⟨⟨uid, slot, claim, stage⟩, budget, torn⟩ ⟨uid, slot, claim, none⟩)
      (reclaimStage stage uid) ⟨⟨uid, slot, claim, stage⟩, budget, torn⟩ := by
    cases stage with
    | none => exact ⟨rfl, rfl⟩
    | some stage =>
      obtain ⟨hinfo, hpart⟩ := h.stage stage rfl
      unfold reclaimStage
      rw [leaves_bind, checkStage_of_partial hinfo hpart]
      exact leaves_fileStep (fun hcrash => ⟨rfl, hcrash, h⟩) fun t ht hbudget => ⟨ht, hbudget⟩
  refine hstage.mono (fun _ _ h => h) ?_
  rintro _ t ⟨ht, hsame⟩
  rw [leaves_bind]
  refine leaves_current ?_
  rw [ht]
  have hexplained : Explained store uid claim slot := h.explained
  unfold reclaimClaim
  cases claim with
  | none =>
    cases hexplained
    exact ⟨ht, hsame⟩
  | some claim =>
    dsimp only
    rw [leaves_bind, checkClaim_of_explained hexplained]
    show Leaves _ _ (reclaimSlot store uid claim slot >>= fun _ => _) t
    rw [leaves_bind]
    refine (leaves_reclaimSlot (d := ⟨uid, slot, some claim, none⟩) hexplained rfl rfl ht).mono
      ?_ ?_
    · rintro e u ⟨rfl, hcrash, hleft⟩
      exact ⟨rfl, hsame ▸ hcrash, hleft⟩
    · rintro _ u ⟨hu, hbudget⟩
      refine leaves_fileStep (fun hcrash => ⟨rfl, ?_, ?_⟩) fun v hv hlast => ⟨?_, ?_⟩
      · exact hsame ▸ hbudget ▸ hcrash
      · rw [hu]
        exact ⟨nofun, hexplained.removed⟩
      · rw [hv, hu]
        rfl
      · exact hlast.trans (hbudget.trans hsame)

/-! ### The recovery slot -/

/-- The rest of an owned slot's life: no stage, and a claim that names the slot. -/
structure Working (store : String) (uid : ℕ) (d : Directory) : Prop where
  user : d.uid = uid
  stage : d.stage = none
  owned : ∃ claim node dev ino, d.claim = some claim ∧
    recoveryInfo uid false claim.info = .ok () ∧
    claim.content = Recovery.owned ++ identityBytes dev ino ∧ d.slot = some node ∧
    Owned store uid dev ino node

theorem Working.recoverable {uid : ℕ} (h : Working store uid d) : Recoverable store d := by
  obtain ⟨claim, node, dev, ino, hclaim, hinfo, hcontent, hslot, hnode⟩ := h.owned
  refine ⟨by simp [h.stage], ?_⟩
  rw [h.user, hclaim]
  refine @Explained.owned _ _ _ _ dev ino hinfo hcontent fun found hfound => ?_
  rw [hslot] at hfound
  exact Option.some.inj hfound ▸ hnode

/-- A step on the slot of a working directory. -/
theorem Working.slot {uid : ℕ} (h : Working store uid d) {f : SlotNode → SlotNode}
    (hf : ∀ node dev ino, d.slot = some node → Owned store uid dev ino node →
      Owned store uid dev ino (f node)) :
    Working store uid { d with slot := d.slot.map f } := by
  obtain ⟨claim, node, dev, ino, hclaim, hinfo, hcontent, hslot, hnode⟩ := h.owned
  exact ⟨h.user, h.stage, claim, f node, dev, ino, hclaim, hinfo, hcontent, by simp [hslot],
    hf node dev ino hslot hnode⟩

/-- What the copies and SQLite do to the slot keeps it working. -/
theorem leaves_slotAction {uid : ℕ} (h : Working store uid s.directory) (action : SlotAction) :
    Leaves (fun _ t => Working store uid t.directory) (fun _ t => Working store uid t.directory)
      (action.run store) s := by
  cases action with
  | create suffix =>
    unfold SlotAction.run
    rw [leaves_bind]
    refine leaves_current ?_
    rw [leaves_ite]
    refine ⟨fun hnew => leaves_fileStep (fun _ => h) fun t ht _ => ?_, fun _ => h⟩
    have hcreated := h.slot fun node dev ino hslot hnode =>
      hnode.create suffix (by simpa [hslot] using hnew)
    rw [← h.user] at hcreated ⊢
    rw [ht]
    exact hcreated
  | remove suffix =>
    unfold SlotAction.run
    refine leaves_fileStep (fun _ => h) fun t ht _ => ?_
    rw [ht]
    exact h.slot fun node dev ino _ hnode => hnode.without _

theorem leaves_slotActions {uid : ℕ} (h : Working store uid s.directory)
    (actions : List SlotAction) :
    Leaves (fun _ t => Working store uid t.directory) (fun _ t => Working store uid t.directory)
      (actions.forM (·.run store)) s := by
  induction actions generalizing s with
  | nil => exact h
  | cons action actions ih =>
    show Leaves _ _ (action.run store >>= fun _ => actions.forM (·.run store)) s
    rw [leaves_bind]
    exact (leaves_slotAction h action).mono (fun _ _ h => h) fun _ _ h => ih h

/-- Publishing a claim. -/
theorem leaves_writeRecoveryClaim {payload : Bytes} (hstage : s.directory.stage = none)
    (hpart : ∀ n, Partial (payload.take n))
    (h : Explained store s.directory.uid s.directory.claim s.directory.slot) :
    Leaves (fun _ t => Recoverable store t.directory)
      (fun _ t => t.directory = { s.directory with
        claim := some ⟨newFile s.directory.uid, payload⟩, stage := none })
      (writeRecoveryClaim payload) s := by
  have hstaged : ∀ content, Partial content → Recoverable store { s.directory with
      stage := some ⟨newFile s.directory.uid, content⟩ } := fun content hcontent =>
    ⟨fun stage hfound => by
      obtain rfl := Option.some.inj hfound
      exact ⟨recoveryInfo_newFile _, hcontent⟩, h⟩
  have hempty : Partial [] := hpart 0
  unfold writeRecoveryClaim
  rw [leaves_bind]
  refine leaves_current ?_
  rw [if_neg (by simp [hstage]), leaves_bind]
  refine leaves_fileStep (fun _ => ⟨by simp [hstage], h⟩) fun t ht _ => ?_
  rw [leaves_bind]
  refine leaves_append (fun _ n u hu => ?_) fun u hu _ => ?_
  · rw [hu, ht]
    exact hstaged _ (hpart n)
  · have hfull : Partial payload := by simpa using hpart payload.length
    rw [ht] at hu
    refine leaves_fileStep (fun _ => ?_) fun v hv _ => ?_
    · rw [hu]
      exact hstaged payload hfull
    · rw [hv, hu]
      rfl

/-- The inspection between the claim of a slot and its end. -/
theorem leaves_inspected {uid : ℕ} (h : Working store uid s.directory) (inspection : Inspection) :
    Leaves (fun _ t => Recoverable store t.directory) (fun _ t => Recoverable store t.directory)
      (withFinally (inspect store inspection) (reclaimRecoverySlot store)) s := by
  have hcleanup : ∀ t : Disk, Working store uid t.directory →
      Leaves (fun _ u => Recoverable store u.directory) (fun _ u => Recoverable store u.directory)
        (reclaimRecoverySlot store) t := by
    intro t ht
    refine (leaves_reclaim ht.recoverable).mono ?_ ?_
    · rintro _ u ⟨-, -, hu⟩
      exact hu
    · rintro _ u ⟨hu, -⟩
      rw [hu]
      exact recoverable_cleared _
  unfold withFinally
  rw [leaves_bind, leaves_tryCatch]
  have hinspect : Leaves (fun _ t => Working store uid t.directory)
      (fun _ t => Working store uid t.directory) (inspect store inspection) s := by
    unfold inspect
    rw [leaves_bind]
    refine (leaves_slotActions h inspection.actions).mono (fun _ _ h => h) fun _ t ht => ?_
    rw [leaves_ite]
    exact ⟨fun _ => ht, fun _ => ht⟩
  refine hinspect.mono (fun e t ht => ?_) fun _ t ht => hcleanup t ht
  have hraised : Leaves (fun _ u => Recoverable store u.directory)
      (fun (_ : Unit) _ => False) (reclaimRecoverySlot store >>= fun _ => throw e) t := by
    rw [leaves_bind]
    exact (hcleanup t ht).mono (fun _ _ h => h) fun _ _ h => h
  cases e with
  | crash => exact ht.recoverable
  | storeError message => exact hraised.mono (fun _ _ h => h) fun _ _ h => h.elim
  | osError => exact hraised.mono (fun _ _ h => h) fun _ _ h => h.elim

/-- The payload of a planned slot, or a part of it. -/
theorem partial_planned (n : ℕ) : Partial (planned.take n) := .inl (List.take_prefix _ _)

/-- **The recovery slot**, from its claim to its removal. -/
theorem leaves_recoverySlot {uid : ℕ} (hd : s.directory = cleared uid) (inspection : Inspection) :
    Leaves (fun _ t => Recoverable store t.directory) (fun _ t => Recoverable store t.directory)
      (recoverySlot store inspection) s := by
  have hplan : Explained store uid (some ⟨newFile uid, planned⟩) none :=
    .planned (recoveryInfo_newFile uid) rfl nofun
  have hinfo : recoveryInfo uid true { kind := .directory, uid, mode := 0o700 } = .ok () := by
    simp [recoveryInfo]
  unfold recoverySlot
  rw [leaves_bind]
  refine (@leaves_writeRecoveryClaim store _ _ (by rw [hd]; rfl) partial_planned
    (by rw [hd]; exact .nothing)).mono (fun _ _ h => h) ?_
  intro _ t ht
  rw [hd] at ht
  unfold mkdir
  rw [leaves_bind, leaves_bind]
  refine leaves_current ?_
  rw [if_neg (by simp [ht, cleared])]
  refine leaves_fileStep (fun _ => ?_) fun u hu _ => ?_
  · rw [ht]
    exact ⟨nofun, hplan⟩
  rw [ht] at hu
  unfold slotInfo
  rw [leaves_bind, leaves_bind]
  refine leaves_current ?_
  rw [hu]
  dsimp only [cleared]
  rw [leaves_bind, hinfo]
  show Leaves _ _ (writeRecoveryClaim (owned ++ identityBytes inspection.dev inspection.ino) >>=
    fun _ => withFinally (inspect store inspection) (reclaimRecoverySlot store)) u
  rw [leaves_bind]
  refine (@leaves_writeRecoveryClaim store _ _ (by rw [hu])
    (fun n => .inr ⟨inspection.dev, inspection.ino, List.take_prefix _ _⟩) ?_).mono
      (fun _ _ h => h) ?_
  · rw [hu]
    refine .planned (recoveryInfo_newFile uid) rfl fun node hnode => ?_
    obtain rfl := Option.some.inj hnode
    exact ⟨hinfo, rfl, rfl⟩
  · intro _ v hv
    rw [hu] at hv
    refine @leaves_inspected _ _ uid ?_ inspection
    rw [hv]
    exact ⟨rfl, rfl, _, _, inspection.dev, inspection.ino, rfl, recoveryInfo_newFile uid, rfl, rfl,
      hinfo, rfl, rfl, rfl, List.nodup_nil, nofun, nofun⟩

/-- **One guarded open**, however it ends. -/
theorem leaves_guardedOpen (h : Recoverable store s.directory) (inspection : Option Inspection) :
    Leaves (fun _ t => Recoverable store t.directory) (fun _ t => Recoverable store t.directory)
      (guardedOpen store inspection) s := by
  have hreclaim := leaves_reclaim h
  cases inspection with
  | none =>
    refine hreclaim.mono ?_ ?_
    · rintro _ t ⟨-, -, ht⟩
      exact ht
    · rintro _ t ⟨ht, -⟩
      rw [ht]
      exact recoverable_cleared _
  | some inspection =>
    unfold guardedOpen
    rw [leaves_bind]
    refine hreclaim.mono ?_ ?_
    · rintro _ t ⟨-, -, ht⟩
      exact ht
    · rintro _ t ⟨ht, -⟩
      exact leaves_recoverySlot ht inspection

/-! ### Reclaiming any directory -/

/-- The claim attests the slot: both pass their checks. -/
def Attested (store : String) (d : Directory) (slot : SlotNode) : Prop :=
  ∃ claim, d.claim = some claim ∧ checkClaim d.uid claim = .ok () ∧
    checkSlot store d.uid claim slot = .ok ()

/-- The checks of a program stop it with a `ServerStoreError`. -/
def Refuses (x : Except Stop Unit) : Prop := ∀ e, x = .error e → ∃ message, e = .storeError message

theorem refuses_refuse (message : String) : Refuses (refuse message) := by
  rintro _ ⟨⟩
  exact ⟨_, rfl⟩

theorem refuses_ok : Refuses (.ok ()) := by
  intro e h
  cases h

theorem refuses_recoveryInfo (owner : ℕ) (directory : Bool) (info : Info) :
    Refuses (recoveryInfo owner directory info) := by
  unfold recoveryInfo
  split_ifs <;> first | exact refuses_refuse _ | exact refuses_ok

theorem Refuses.bind {x y : Except Stop Unit} (hx : Refuses x) (hy : Refuses y) :
    Refuses (x >>= fun _ => y) := by
  intro e h
  cases x with
  | error e' => exact hx e h
  | ok _ => exact hy e h

theorem refuses_checkStage (owner : ℕ) (stage : FileNode) : Refuses (checkStage owner stage) := by
  refine (refuses_recoveryInfo _ _ _).bind ?_
  split_ifs
  · exact refuses_refuse _
  · exact refuses_ok
  · exact refuses_refuse _

theorem refuses_checkClaim (owner : ℕ) (claim : FileNode) : Refuses (checkClaim owner claim) := by
  refine (refuses_recoveryInfo _ _ _).bind ?_
  split_ifs
  · exact refuses_refuse _
  · exact refuses_refuse _
  · exact refuses_ok

theorem refuses_entries (owner : ℕ) (entries : List SlotEntry) :
    Refuses (entries.forM fun entry => recoveryInfo owner false entry.info) := by
  induction entries with
  | nil => exact refuses_ok
  | cons entry entries ih => exact (refuses_recoveryInfo _ _ _).bind ih

theorem refuses_checkSlot (store : String) (owner : ℕ) (claim : FileNode) (slot : SlotNode) :
    Refuses (checkSlot store owner claim slot) := by
  refine (refuses_recoveryInfo _ _ _).bind ?_
  split_ifs
  · exact refuses_refuse _
  · exact refuses_refuse _
  · exact refuses_refuse _
  · exact refuses_entries _ _

/-- What stops the reclaim of a slot that is not attested: the slot is kept. -/
def Refused (s : Disk) (slot : SlotNode) (e : Stop) (t : Disk) : Prop :=
  t.directory.slot = some slot ∧ (s.budget = none → ∃ message, e = .storeError message)

/-- **Reclaiming any directory** removes its slot only if it is attested. -/
theorem leaves_reclaim_any {slot : SlotNode} (hslot : s.directory.slot = some slot)
    (h : ¬ Attested store s.directory slot) :
    Leaves (Refused s slot) (fun _ _ => False) (reclaimRecoverySlot store) s := by
  obtain ⟨d, budget, torn⟩ := s
  obtain ⟨uid, _, claim, stage⟩ := d
  obtain rfl : _ = some slot := hslot
  unfold reclaimRecoverySlot
  rw [leaves_bind]
  refine leaves_current ?_
  rw [leaves_bind]
  have hstage : Leaves (Refused ⟨⟨uid, some slot, claim, stage⟩, budget, torn⟩ slot)
      (fun _ => After ⟨⟨uid, some slot, claim, stage⟩, budget, torn⟩ ⟨uid, some slot, claim, none⟩)
      (reclaimStage stage uid) ⟨⟨uid, some slot, claim, stage⟩, budget, torn⟩ := by
    cases stage with
    | none => exact ⟨rfl, rfl⟩
    | some stage =>
      unfold reclaimStage
      rw [leaves_bind, leaves_raise]
      refine ⟨fun _ _ => ?_, fun e he => ⟨rfl, fun _ => refuses_checkStage _ _ e he⟩⟩
      refine leaves_fileStep (fun hcrash => ⟨rfl, fun hnone => ?_⟩) fun t ht hbudget => ⟨ht, hbudget⟩
      rw [hnone] at hcrash
      cases hcrash
  refine hstage.mono (fun _ _ h => h) ?_
  rintro _ t ⟨ht, hsame⟩
  rw [leaves_bind]
  refine leaves_current ?_
  have hkept : t.directory.slot = some slot := by rw [ht]
  rw [ht]
  unfold reclaimClaim
  cases claim with
  | none =>
    dsimp only
    rw [if_pos Option.isSome_some]
    refine leaves_raise.mpr ⟨fun _ hok => ?_, fun e he => ⟨hkept, fun _ => refuses_refuse _ e he⟩⟩
    cases hok
  | some claim =>
    dsimp only
    rw [leaves_bind, leaves_raise]
    refine ⟨fun _ hclaim => ?_, fun e he => ⟨hkept, fun _ => refuses_checkClaim _ _ e he⟩⟩
    unfold reclaimSlot
    rw [leaves_bind, leaves_bind, leaves_raise]
    refine ⟨fun _ hchecked => ?_, fun e he => ⟨hkept, fun _ => refuses_checkSlot _ _ _ _ e he⟩⟩
    exact absurd ⟨claim, rfl, hclaim, hchecked⟩ h

/-- A slot that exists without being attested. -/
inductive Unattested (store : String) (d : Directory) (slot : SlotNode) : Prop
  | noClaim (none : d.claim = none)
  | malformedClaim (claim : FileNode) (some : d.claim = some claim)
      (notPlanned : claim.content ≠ planned)
      (notOwned : ¬ ∃ identity : Bytes, identity.length = 32 ∧ claim.content = owned ++ identity)
  | otherIdentity (claim : FileNode) (some : d.claim = some claim) (dev ino : UInt64)
      (content : claim.content = owned ++ identityBytes dev ino)
      (other : (slot.dev, slot.ino) ≠ (dev, ino))
  | notEmpty (claim : FileNode) (some : d.claim = some claim) (content : claim.content = planned)
      (entries : slot.entries ≠ [])
  | foreignName (entry : SlotEntry) (mem : entry ∈ slot.entries)
      (foreign : entry.name ∉ allowedNames store)
  | unsafeEntry (entry : SlotEntry) (mem : entry ∈ slot.entries)
      (unsound : recoveryInfo slot.info.uid false entry.info ≠ .ok ())

/-- The checks tell. -/
theorem not_attested_of_unattested {slot : SlotNode} (h : Unattested store d slot) :
    ¬ Attested store d slot := by
  rintro ⟨claim, hclaim, hchecked, hslot⟩
  obtain ⟨-, -, hchecked⟩ := bind_eq_ok.mp hchecked
  obtain ⟨-, -, hslot⟩ := bind_eq_ok.mp hslot
  split_ifs at hchecked with hlong hmalformed
  · cases hchecked
  · cases hchecked
  split_ifs at hslot with hother hmany hcontents
  · cases hslot
  · cases hslot
  · cases hslot
  have hentries := forM_eq_ok.mp hslot
  cases h with
  | noClaim none => cases hclaim.symm.trans none
  | malformedClaim found some notPlanned notOwned =>
    obtain rfl := Option.some.inj (hclaim.symm.trans some)
    refine hmalformed ⟨notPlanned, fun ⟨hfront, hlength⟩ => notOwned ?_⟩
    obtain ⟨identity, hidentity⟩ := hfront
    refine ⟨identity, ?_, hidentity.symm⟩
    have hlengths := congrArg List.length hidentity
    rw [List.length_append] at hlengths
    omega
  | otherIdentity found some dev ino content other =>
    obtain rfl := Option.some.inj (hclaim.symm.trans some)
    have hne : claim.content ≠ planned := by
      rw [content]
      intro hsame
      have hlengths := congrArg List.length hsame
      rw [List.length_append, length_identityBytes] at hlengths
      have hplanned : planned.length = owned.length := by decide
      omega
    have hsame := not_not.mp fun hdiffers => hother ⟨hne, hdiffers⟩
    rw [content, List.drop_left] at hsame
    obtain ⟨rfl, rfl⟩ := identityBytes_inj hsame
    exact other rfl
  | notEmpty found some content entries =>
    obtain rfl := Option.some.inj (hclaim.symm.trans some)
    exact hcontents (.inl ⟨content, entries⟩)
  | foreignName entry mem foreign => exact hcontents (.inr ⟨entry, mem, foreign⟩)
  | unsafeEntry entry mem unsound => exact unsound (hentries entry mem)

end Reclaim

/-! ### Runs -/

/-- **Crash consistency** of a directory: the next reclaim succeeds and leaves nothing, and that of
    any directory with an unattested slot is refused and keeps the slot. -/
structure CrashConsistent (store : String) (d : Directory) : Prop where
  reclaims : ∀ torn, ∃ t, (reclaimRecoverySlot store).result ⟨d, none, torn⟩ = (.ok (), t) ∧
    t.directory = cleared d.uid
  refuses : ∀ (other : Directory) (slot : SlotNode) torn, other.slot = some slot →
    Unattested store other slot → ∃ message t,
      (reclaimRecoverySlot store).result ⟨other, none, torn⟩ = (.error (.storeError message), t) ∧
        t.directory.slot = some slot
  keeps : ∀ (other : Directory) (slot : SlotNode) budget torn, other.slot = some slot →
    Unattested store other slot →
      ((reclaimRecoverySlot store).result ⟨other, budget, torn⟩).2.directory.slot = some slot

/-- **The recovery slot is crash consistent**: over any opens, each of which may find an interrupted
    store and may crash at any step, of the reclaim as well. -/
theorem recovery_consistent (store : String) (uid : ℕ) {d : Directory} {log : List Unit}
    (run : (recoveryMachine store).Run (fun _ _ => True) (cleared uid) d log) :
    CrashConsistent store d := by
  have h : Recoverable store d := by
    refine Machine.Run.invariant (I := fun d _ => Recoverable store d) (recoverable_cleared uid) ?_
      run
    intro d d' log events attempt _ hd _ hstep
    obtain ⟨rfl, rfl⟩ := Prod.mk.inj (Option.some.inj hstep)
    exact (leaves_guardedOpen (s := ⟨d, attempt.budget, attempt.torn⟩) hd
      attempt.inspection).state
  refine ⟨fun torn => ?_, fun other slot torn hslot hunattested => ?_,
    fun other slot budget torn hslot hunattested => ?_⟩
  · have hleft := leaves_reclaim (s := ⟨d, none, torn⟩) h
    unfold Leaves at hleft
    rcases hresult : (reclaimRecoverySlot store).result ⟨d, none, torn⟩ with ⟨e | _, t⟩
    · rw [hresult] at hleft
      cases hleft.2.1
    · rw [hresult] at hleft
      exact ⟨t, rfl, hleft.1⟩
  · have hleft := leaves_reclaim_any (s := ⟨other, none, torn⟩) hslot
      (not_attested_of_unattested hunattested)
    unfold Leaves at hleft
    rcases hresult : (reclaimRecoverySlot store).result ⟨other, none, torn⟩ with ⟨e | _, t⟩
    · rw [hresult] at hleft
      obtain ⟨message, rfl⟩ := hleft.2 rfl
      exact ⟨message, t, rfl, hleft.1⟩
    · rw [hresult] at hleft
      exact hleft.elim
  · exact ((leaves_reclaim_any (s := ⟨other, budget, torn⟩) hslot
      (not_attested_of_unattested hunattested)).mono (fun _ _ h => h.1)
        fun _ _ h => h.elim).state (P := fun t : Disk => t.directory.slot = some slot)

/-- An open that crashes while it reclaims its own slot, after the first entry. -/
private def crashedReclaim : Attempt where
  inspection := some
    { dev := 7, ino := 9, actions := [.create .database, .create .journal], raises := false }
  budget := some 10
  torn := 0

/-- A crash inside the reclaim, with the slot half removed. -/
theorem recovery_consistent_crash : ∃ d,
    (recoveryMachine "server.db").Run (fun _ _ => True) (cleared 0) d [] ∧
      d.slot.map (·.entries.length) = some 1 ∧ CrashConsistent "server.db" d := by
  have hstep : ((crashedReclaim.inspection.map fun inspection =>
      ((guardedOpen "server.db" (some inspection)).result
        ⟨cleared 0, crashedReclaim.budget, crashedReclaim.torn⟩).2.directory.slot.map
          (·.entries.length))) = some (some 1) := by decide +kernel
  have run := (Machine.Run.refl :
    (recoveryMachine "server.db").Run (fun _ _ => True) (cleared 0) _ _).step crashedReclaim trivial
    (rfl : (recoveryMachine "server.db").step (cleared 0) crashedReclaim = some (_, []))
  exact ⟨_, run, Option.some.inj hstep, recovery_consistent "server.db" 0 run⟩

end ScarcityRouter.Recovery
