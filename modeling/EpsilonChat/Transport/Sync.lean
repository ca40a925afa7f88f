import EpsilonChat.Base.Text
import EpsilonChat.Lib.Table
import Mathlib

/-!
# Synchronisation of transports

The tables `transports` and `removed_transports` of a device and the message
`SyncData::Transports` of another device of the same user:

* `saveTransport`: `save_transport`: an upsert, guarded by a comparison with the stored ROW (the
  table of removals is not consulted);
* `removeTransport`: the body of the loop over the removals;
* `syncTransports`: `sync_transports`.

Login parameters are compared as the JSON text that is stored.  The IDs of the rows are left out.
-/

namespace EpsilonChat.Transport
open Lib Text

/-- `ConfiguredLoginParamJson`, with its JSON text -/
structure ConfiguredLoginParam where
  addr : String
  imapFolder : Option String := none
  json : String

/-- `entered` is the JSON text of the entered login parameters -/
structure TransportData where
  configured : ConfiguredLoginParam
  entered : String
  timestamp : ℤ
  isPublished : Bool

structure RemovedTransportData where
  addr : String
  timestamp : ℤ

/-- `SyncData::Transports` -/
structure SyncMessage where
  transports : List TransportData := []
  removedTransports : List RemovedTransportData := []

structure Row where
  enteredParam : String
  configuredParam : String
  addTimestamp : ℤ
  isPublished : Bool
  deriving DecidableEq, Repr

structure Device where
  configuredAddr : Option String
  transports : String → Option Row
  removedTransports : String → Option ℤ

inductive SyncError where
  /-- "Configured watched folder name cannot be empty" -/
  | emptyFolder
  /-- there is no `configured_addr` in the table `config` -/
  | notConfigured
  deriving DecidableEq, Repr

def TransportData.row (td : TransportData) : Row where
  enteredParam := td.entered
  configuredParam := td.configured.json
  addTimestamp := td.timestamp
  isPublished := td.isPublished

/-- the `ON CONFLICT` branch: the row is overwritten if it differs, or else if it is older -/
def Row.overwrite (new r : Row) : Option Row :=
  if r.enteredParam ≠ new.enteredParam ∨ r.configuredParam ≠ new.configuredParam ∨
      r.addTimestamp < new.addTimestamp ∨ r.isPublished ≠ new.isPublished then some new
  else none

section
variable (toLowercase : String → String)

def TransportData.addr (td : TransportData) : String :=
  addrNormalize toLowercase td.configured.addr

/-- the statement of `save_transport`, and the first transport as the primary one -/
def Device.save (s : Device) (td : TransportData) : Device where
  configuredAddr := s.configuredAddr.or (some (td.addr toLowercase))
  transports := upsert s.transports (td.addr toLowercase) td.row td.row.overwrite
  removedTransports := s.removedTransports

def saveTransport (s : Device) (td : TransportData) : Except SyncError (Device × Bool) :=
  if td.configured.imapFolder = some "" then .error .emptyFolder
  else .ok (s.save toLowercase td,
    upserted s.transports (td.addr toLowercase) td.row.overwrite || s.configuredAddr.isNone)

/-- the first loop: an error ends it -/
def saveTransports : Device → Bool → List TransportData → Device × Except SyncError Bool
  | s, modified, [] => (s, .ok modified)
  | s, modified, td :: l =>
    match saveTransport toLowercase s td with
    | .error e => (s, .error e)
    | .ok (s, m) => saveTransports s (modified || m) l

/-- the body of the second loop, which leaves the primary transport alone -/
def Device.remove (s : Device) (configuredAddr : String) (rd : RemovedTransportData) : Device :=
  if rd.addr = configuredAddr then s
  else { s with
    transports := deleteRow s.transports rd.addr fun r => r.addTimestamp ≤ rd.timestamp
    removedTransports := upsert s.removedTransports rd.addr rd.timestamp fun old =>
      if rd.timestamp > old then some rd.timestamp else none }

def Device.removes (s : Device) (configuredAddr : String) (rd : RemovedTransportData) : Bool :=
  rd.addr ≠ configuredAddr && (s.transports rd.addr).any fun r => r.addTimestamp ≤ rd.timestamp

def removeTransports (configuredAddr : String) (s : Device) (modified : Bool)
    (l : List RemovedTransportData) : Device × Bool :=
  l.foldl (fun s rd => (s.1.remove configuredAddr rd, s.2 || s.1.removes configuredAddr rd))
    (s, modified)

def syncTransports (s : Device) (m : SyncMessage) : Device × Except SyncError Bool :=
  match saveTransports toLowercase s false m.transports with
  | (s, .error e) => (s, .error e)
  | (s, .ok modified) =>
    match s.configuredAddr with
    | none => (s, .error .notConfigured)
    | some configuredAddr =>
      let s := removeTransports configuredAddr s modified m.removedTransports
      (s.1, .ok s.2)

end

end EpsilonChat.Transport
