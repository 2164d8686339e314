import RamShield.Types.Command

/-! # The write-ahead log

The semantic records, and the log as the list of the durable ones. An address or
incarnation is text in a record; here it is what that text parses to, so `none`
is a record whose text does not parse. An append and its sync are one step that
either happens or leaves the log as it was.
-/

namespace RamShield

inductive MeshMutationAction
  | block
  | unblock
  deriving DecidableEq

/-- The fields of `WalEntry::MeshMutation`. -/
structure MeshMutation where
  schemaVersion : Nat
  originNodeId : Nat
  originIncarnation : Option Uuid
  originCounter : Nat
  ip : Option IpAddr
  action : MeshMutationAction
  createdAtMs : Nat
  expiresAtMs : Option Nat
  tier : Nat
  signature : Option String
  tsNs : Nat
  deriving DecidableEq

inductive WalEntry
  | blockIp (ip : Option IpAddr) (reason : String) (ttlSecs : Option Nat) (tsNs : Nat)
  | unblockIp (ip : Option IpAddr) (tsNs : Nat)
  | blockCidr (cidr : IpNetwork) (reason : String) (ttlSecs : Option Nat) (tsNs : Nat)
  | unblockCidr (cidr : IpNetwork) (tsNs : Nat)
  | insert (key : String) (valueJson : String) (ttlSecs : Option Nat) (tsNs : Nat)
  | delete (key : String) (tsNs : Nat)
  | meshMutation (mutation : MeshMutation)
  | checkpoint (snapshotPath : String) (tsNs : Nat)
  deriving DecidableEq

def WalEntry.isMesh : WalEntry → Bool
  | .meshMutation _ => true
  | _ => false

/-- `Wal`: the durable records, oldest first. The first has LSN 1. -/
structure Wal where
  log : List WalEntry
  deriving DecidableEq

namespace Wal

def empty : Wal := ⟨[]⟩

/-- `Wal::append`: the LSN of the record, and the longer log. -/
def append (wal : Wal) (entry : WalEntry) : Nat × Wal := (wal.log.length + 1, ⟨wal.log ++ [entry]⟩)

def durableLsn (wal : Wal) : Nat := wal.log.length

/-- `Wal::replay_from`: the records after an LSN; all of them for LSN 0. -/
def replayFrom (wal : Wal) (minLsn : Nat) : List WalEntry := wal.log.drop minLsn

lemma length_le_append (wal : Wal) (entry : WalEntry) :
    wal.log.length ≤ (wal.append entry).2.log.length := by
  simp [append]

end Wal

end RamShield
