import ScarcityRouter.Lib.Effects
import ScarcityRouter.Lib.Machine
import ScarcityRouter.Worker.Frames

namespace ScarcityRouter.Recovery

open ScarcityRouter.Lib ScarcityRouter.Lib.Stateful

/-!
# The recovery slot of the server store

`server_store.py`: the directory in which an interrupted store is copied and inspected, and the
claim that lets the next open remove what a crash leaves of it.

* `Directory` — the slot, the claim and the claim's stage, as `lstat` and `read_bytes` see them.
* `fileStep`, `append` — one step of the file system each; a crash stops a program before any of
  them, and leaves any prefix of what it appends.
* `reclaimRecoverySlot`, `recoverySlot`, `guardedOpen` — the operations.
* `Recoverable` — the invariant: every state a crash leaves is one that the claim explains.
* `leaves_reclaim` — what reclaiming leaves of a recoverable directory, crash or not;
  `leaves_reclaim_any` — of any directory at all.
* `recovery_consistent` — **after any crashes the next open reclaims everything, and an unattested
  slot is refused and kept.**
-/

/-! ### Files -/

/-- The file type. -/
inductive Kind where
  | regular | directory | symlink | other
  deriving DecidableEq

/-- What the checks read of `lstat`. -/
structure Info where
  kind : Kind
  uid : ℕ
  nlink : ℕ := 1
  /-- `S_IMODE`. -/
  mode : ℕ
  deriving DecidableEq

/-- A file with its content. -/
structure FileNode where
  info : Info
  content : Bytes
  deriving DecidableEq

/-- An entry of the slot. -/
structure SlotEntry where
  name : String
  info : Info
  deriving DecidableEq

/-- The slot, with its entries in the order of `iterdir`. -/
structure SlotNode where
  info : Info
  dev : UInt64
  ino : UInt64
  entries : List SlotEntry := []
  deriving DecidableEq

/-- The directory of the store: its owner, who is the user of the process as well, and the three
    names of the recovery. -/
structure Directory where
  uid : ℕ
  slot : Option SlotNode := none
  claim : Option FileNode := none
  stage : Option FileNode := none
  deriving DecidableEq

/-- How an operation stops. -/
inductive Stop where
  | crash
  /-- `ServerStoreError`. -/
  | storeError (message : String)
  /-- `OSError`, such as `FileExistsError`. -/
  | osError
  deriving DecidableEq

/-! ### Programs -/

/-- The directory, the steps that are left before a crash, and how much of the bytes being appended
    the crash leaves. -/
structure Disk where
  directory : Directory
  budget : Option ℕ := none
  torn : ℕ := 0
  deriving DecidableEq

/-- A program over the directory. -/
abbrev Operation (α : Type) := Stateful Stop Disk α

/-- Read the directory. -/
def current : Operation Directory := do
  let s ← get
  pure s.directory

/-- One step of the file system, before which the process may crash. -/
def fileStep (f : Directory → Directory) : Operation Unit := do
  let s ← get
  match s.budget with
  | some 0 => throw .crash
  | some (n + 1) => set { s with directory := f s.directory, budget := some n }
  | none => set { s with directory := f s.directory }

/-- The directory with the stage's content. -/
def Directory.staged (d : Directory) (content : Bytes) : Directory :=
  { d with stage := d.stage.map fun stage => { stage with content } }

/-- Append to the new stage: a crash leaves any prefix. -/
def append (payload : Bytes) : Operation Unit := do
  let s ← get
  match s.budget with
  | some 0 => do
    set { s with directory := s.directory.staged (payload.take s.torn) }
    throw .crash
  | some (n + 1) => set { s with directory := s.directory.staged payload, budget := some n }
  | none => set { s with directory := s.directory.staged payload }

/-! ### Claims -/

def asciiBytes (s : String) : Bytes := s.toList.map fun c => UInt8.ofNat c.toNat

/-- `_RECOVERY_MAGIC`. -/
def recoveryMagic : Bytes := asciiBytes "scarcity-router recovery claim\n"

/-- The payload of a planned slot. -/
def planned : Bytes := recoveryMagic ++ asciiBytes "P\n"

/-- The head of the payload of an owned slot. -/
def owned : Bytes := recoveryMagic ++ asciiBytes "O\n"

/-- `int.to_bytes(width, "big")`. -/
def toBytes : ℕ → ℕ → Bytes
  | 0, _ => []
  | width + 1, n => toBytes width (n / 256) ++ [UInt8.ofNat n]

/-- The device and the inode of a slot, as its claim names them. -/
def identityBytes (dev ino : UInt64) : Bytes := toBytes 16 dev.toNat ++ toBytes 16 ino.toNat

/-- An error that leaves the artifacts to the administrator. -/
def refuse {α : Type} (message : String) : Except Stop α :=
  .error (.storeError (message ++ "; administrator inspection required"))

/-- `_recovery_info`, under the owner of the parent. -/
def recoveryInfo (owner : ℕ) (directory : Bool) (info : Info) : Except Stop Unit :=
  if info.kind ≠ (if directory then .directory else .regular) ∨ info.uid ≠ owner ∨
      (directory = false ∧ info.nlink ≠ 1) then
    refuse "unsafe recovery artifact"
  else if info.mode ≠ (if directory then 0o700 else 0o600) then
    refuse "unsafe recovery artifact permissions"
  else .ok ()

/-- `open(…, O_CREAT | O_EXCL, 0o600)`, under a umask that keeps the owner's bits. -/
def newFile (uid : ℕ) : Info := { kind := .regular, uid, mode := 0o600 }

/-- `_write_recovery_claim`. -/
def writeRecoveryClaim (payload : Bytes) : Operation Unit := do
  let d ← current
  if d.stage.isSome then throw .osError
  else do
    fileStep fun d => { d with stage := some ⟨newFile d.uid, []⟩ }
    append payload
    fileStep fun d => { d with claim := d.stage, stage := none }

/-! ### Reclaiming -/

/-- The checks of the stage, which may hold any prefix of either payload. -/
def checkStage (owner : ℕ) (stage : FileNode) : Except Stop Unit := do
  recoveryInfo owner false stage.info
  if owned.length + 32 < stage.content.length then refuse "unknown recovery claim"
  else if stage.content <+: planned ∨ stage.content <+: owned ∨
      (owned <+: stage.content ∧ stage.content.length ≤ owned.length + 32) then .ok ()
  else refuse "unknown recovery claim"

/-- The checks of the claim. -/
def checkClaim (owner : ℕ) (claim : FileNode) : Except Stop Unit := do
  recoveryInfo owner false claim.info
  if owned.length + 32 < claim.content.length then refuse "unknown recovery claim"
  else if claim.content ≠ planned ∧
      ¬ (owned <+: claim.content ∧ claim.content.length = owned.length + 32) then
    refuse "unknown recovery claim"
  else .ok ()

/-- The names that SQLite uses for a database. -/
inductive Suffix where
  | database | journal | wal | shm
  deriving DecidableEq

def Suffix.text : Suffix → String
  | database => ""
  | journal => "-journal"
  | wal => "-wal"
  | shm => "-shm"

/-- The names that a slot may hold. -/
def allowedNames (store : String) : List String :=
  [Suffix.database, .journal, .wal, .shm].map fun suffix => store ++ suffix.text

/-- The checks of the slot and of its entries. -/
def checkSlot (store : String) (owner : ℕ) (claim : FileNode) (slot : SlotNode) :
    Except Stop Unit := do
  recoveryInfo owner true slot.info
  if claim.content ≠ planned ∧
      claim.content.drop owned.length ≠ identityBytes slot.dev slot.ino then
    refuse "recovery slot identity changed"
  else if 4 < slot.entries.length then refuse "unattested recovery contents"
  else if (claim.content = planned ∧ slot.entries ≠ []) ∨
      ∃ entry ∈ slot.entries, entry.name ∉ allowedNames store then
    refuse "unattested recovery contents"
  else slot.entries.forM fun entry => recoveryInfo slot.info.uid false entry.info

/-- The slot without the entry of a name. -/
def SlotNode.without (slot : SlotNode) (name : String) : SlotNode :=
  { slot with entries := slot.entries.filter (·.name ≠ name) }

/-- `entry.unlink()` for each entry. -/
def unlinkEntries : List SlotEntry → Operation Unit
  | [] => pure ()
  | entry :: entries => do
    fileStep fun d => { d with slot := d.slot.map (·.without entry.name) }
    unlinkEntries entries

/-- `slot.rmdir()`. -/
def rmdir : Operation Unit := do
  let d ← current
  if d.slot.any (·.entries = []) then fileStep fun d => { d with slot := none }
  else throw .osError

/-- The removal of an attested slot. -/
def reclaimSlot (store : String) (owner : ℕ) (claim : FileNode) : Option SlotNode → Operation Unit
  | none => pure ()
  | some slot => do
    raise (checkSlot store owner claim slot)
    unlinkEntries slot.entries
    rmdir

/-- The removal of a stage. -/
def reclaimStage : Option FileNode → ℕ → Operation Unit
  | none, _ => pure ()
  | some stage, owner => do
    raise (checkStage owner stage)
    fileStep fun d => { d with stage := none }

/-- The removal of what the claim attests. -/
def reclaimClaim (store : String) (d : Directory) : Operation Unit :=
  match d.claim with
  | none =>
    if d.slot.isSome then raise (refuse "unattested recovery slot") else pure ()
  | some claim => do
    raise (checkClaim d.uid claim)
    reclaimSlot store d.uid claim d.slot
    fileStep fun d => { d with claim := none }

/-- `_reclaim_recovery_slot`. -/
def reclaimRecoverySlot (store : String) : Operation Unit := do
  let d ← current
  reclaimStage d.stage d.uid
  let d ← current
  reclaimClaim store d

/-! ### The slot -/

/-- What the copies and the inspection of a copy do to the entries of the slot. -/
inductive SlotAction where
  | create (suffix : Suffix)
  | remove (suffix : Suffix)

/-- A file of the database's family is created, exclusively, or removed. -/
def SlotAction.run (store : String) : SlotAction → Operation Unit
  | create suffix => do
    let d ← current
    if d.slot.any fun slot => slot.entries.all fun entry => entry.name ≠ store ++ suffix.text then
      fileStep fun d => { d with
        slot := d.slot.map fun slot => { slot with
          entries := slot.entries ++ [⟨store ++ suffix.text, newFile d.uid⟩] } }
    else throw .osError
  | remove suffix =>
    fileStep fun d => { d with slot := d.slot.map (·.without (store ++ suffix.text)) }

/-- One interrupted store: the identity that its new slot gets, what happens in it, and whether the
    inspection raises in the end. -/
structure Inspection where
  dev : UInt64
  ino : UInt64
  actions : List SlotAction
  raises : Bool

/-- The copies and the inspection. -/
def inspect (store : String) (inspection : Inspection) : Operation Unit := do
  inspection.actions.forM (·.run store)
  if inspection.raises then
    throw (.storeError "server store interrupted-transaction inspection failed safely")
  else pure ()

/-- `try … finally`, which a crash leaves out. -/
def withFinally (body cleanup : Operation Unit) : Operation Unit := do
  tryCatch body fun
    | .crash => throw .crash
    | e => do
      cleanup
      throw e
  cleanup

/-- `slot.mkdir(mode=0o700)`, under a umask that keeps the owner's bits. -/
def mkdir (dev ino : UInt64) : Operation Unit := do
  let d ← current
  if d.slot.isSome then throw .osError
  else
    fileStep fun d => { d with
      slot := some { info := { kind := .directory, uid := d.uid, mode := 0o700 }, dev, ino } }

/-- `_recovery_info(slot, directory=True)`. -/
def slotInfo : Operation SlotNode := do
  let d ← current
  match d.slot with
  | none => throw .osError
  | some slot => do
    raise (recoveryInfo d.uid true slot.info)
    pure slot

/-- `_recovery_slot`, around the inspection. -/
def recoverySlot (store : String) (inspection : Inspection) : Operation Unit := do
  writeRecoveryClaim planned
  mkdir inspection.dev inspection.ino
  let slot ← slotInfo
  writeRecoveryClaim (owned ++ identityBytes slot.dev slot.ino)
  withFinally (inspect store inspection) (reclaimRecoverySlot store)

/-- One guarded open, which finds an interrupted store or not. -/
def guardedOpen (store : String) : Option Inspection → Operation Unit
  | none => reclaimRecoverySlot store
  | some inspection => do
    reclaimRecoverySlot store
    recoverySlot store inspection

/-- An open of the store, and where it crashes, if it does. -/
structure Attempt where
  inspection : Option Inspection
  budget : Option ℕ
  torn : ℕ

/-- The directory as a machine: one open after the other, each under the guard's lock. -/
def recoveryMachine (store : String) : Machine Directory Attempt Unit :=
  ⟨fun d attempt =>
    let ended := (guardedOpen store attempt.inspection).result ⟨d, attempt.budget, attempt.torn⟩
    some (ended.2.directory, [])⟩

end ScarcityRouter.Recovery
