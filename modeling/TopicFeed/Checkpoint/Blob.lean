import TopicFeed.Checkpoint.Layout
/-! Checkpoints: a version in four bytes, the highest first, before the bytes of a value. Values of
the version before the current one are upgraded as they are read. -/
namespace TopicFeed
namespace Checkpoint

/-- The version before the current one. -/
def legacyVersion : Nat := 1

/-- A number in four bytes, the highest first. -/
def versionBytes (version : Nat) : List UInt8 :=
  [.ofNat (version / 16777216), .ofNat (version / 65536), .ofNat (version / 256), .ofNat version]

def blob {α : Type} (version : Nat) (format : Format α) (value : α) : List UInt8 :=
  versionBytes version ++ format.encode value

/-- Reads a value; bytes after it are ignored. -/
def decodeBody {α : Type} (format : Format α) (body : List UInt8) : Except Failure α :=
  match format.decode body with
  | .ok (value, _) => .ok value
  | .error fault => .error (.corruptedCheckpoint (.body fault))

/-- Reads a value by the version before it. -/
def decodeBlob {α β : Type} (legacy : Format β) (upgrade : β → α) (current : Format α) :
    List UInt8 → Except Failure α
  | a :: b :: c :: d :: body =>
    let version := a.toNat * 16777216 + b.toNat * 65536 + c.toNat * 256 + d.toNat
    if version = legacyVersion then (decodeBody legacy body).map upgrade
    else if version = currentVersion then decodeBody current body
    else .error (.unknownVersion version)
  | bytes => .error (.corruptedCheckpoint (.short bytes.length))

def encodeSplit (split : Split) : List UInt8 := blob currentVersion Layout.split split

def decodeSplit : List UInt8 → Except Failure Split :=
  decodeBlob Layout.legacySplit LegacySplit.upgrade Layout.split

def encodeState (state : EnumeratorState) : List UInt8 := blob currentVersion Layout.state state

def decodeState : List UInt8 → Except Failure EnumeratorState :=
  decodeBlob Layout.legacyState LegacyState.upgrade Layout.state

end Checkpoint
end TopicFeed
