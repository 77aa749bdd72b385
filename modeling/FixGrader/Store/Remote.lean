import FixGrader.Store.Access
import FixGrader.Store.KeyValue
import FixGrader.Submission.Document

namespace FixGrader

namespace RemoteStore

def key (id : Uuid) : String := "scoring:submission:" ++ id.toString

def unreachable : StoreError := .unreachable "connection lost"

def load (id : Uuid) (c : Connection) : Except StoreError (Option Submission) × Connection :=
  match c.attemptTwice (KeyValueServer.get (key id)) with
  | (none, c) => (.error unreachable, c)
  | (some none, c) => (.ok none, c)
  | (some (some text), c) =>
    match Submission.decode? text with
    | some s => (.ok (some s), c)
    | none => (.error (.undecodable "invalid document"), c)

def save (s : Submission) (c : Connection) : Except StoreError Unit × Connection :=
  match c.attemptTwice (KeyValueServer.set (key s.id) s.encode) with
  | (none, c) => (.error unreachable, c)
  | (some (), c) => (.ok (), c)

end RemoteStore

/-- A remote store never breaks a call. -/
def StoreAccess.remote : StoreAccess Connection where
  load id c :=
    let (loaded, c) := RemoteStore.load id c
    (loaded.mapError .fails, c)
  save s c :=
    let (saved, c) := RemoteStore.save s c
    (saved.mapError .fails, c)

namespace IdQueue

def ofText? (text : String) : Option Uuid :=
  let trimmed := Text.trimChars text.toList
  let bare := Text.dropEndWhile (· == '"') (trimmed.dropWhile (· == '"'))
  Uuid.parse? (String.ofList bare)

/-- The next id of the list. Entries that are no ids are dropped, and a failure gives no id. -/
def next (key : String) (c : Connection) : Option Uuid × Connection :=
  match c.attempt (KeyValueServer.pop key) with
  | (some (some text), c) => (ofText? text, c)
  | (some none, c) => (none, c)
  | (none, c) => (none, c.reconnect)

end IdQueue

/-- The servers that can be reached, by address. -/
abbrev Network := List (String × KeyValueServer)

/-- A first connection to the server at `address`. -/
def Network.connect (n : Network) (address : String) : Except StoreError Connection :=
  match n.lookup address with
  | some server => .ok { server }
  | none => .error RemoteStore.unreachable

end FixGrader
