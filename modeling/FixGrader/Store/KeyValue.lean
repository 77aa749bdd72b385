namespace FixGrader

/-- What the server does to a command in place of executing it. -/
inductive ServerFault where
  | refusal
  | hangUp
  deriving DecidableEq, Repr

structure KeyValueServer where
  texts : List (String × String) := []
  lists : List (String × List String) := []
  faults : List ServerFault := []
  deriving Inhabited

namespace KeyValueServer

def put {α : Type} (key : String) (value : α) : List (String × α) → List (String × α)
  | [] => [(key, value)]
  | (k, v) :: rest => if k == key then (key, value) :: rest else (k, v) :: put key value rest

def get (key : String) (s : KeyValueServer) : Option String × KeyValueServer :=
  (s.texts.lookup key, s)

def set (key text : String) (s : KeyValueServer) : Unit × KeyValueServer :=
  ((), { s with texts := put key text s.texts })

/-- Takes the first text of a list, if there is one. -/
def pop (key : String) (s : KeyValueServer) : Option String × KeyValueServer :=
  match s.lists.lookup key with
  | some (text :: rest) => (some text, { s with lists := put key rest s.lists })
  | _ => (none, s)

theorem lookup_put_self {α : Type} (key : String) (value : α) (l : List (String × α)) :
    (put key value l).lookup key = some value := by
  induction l with
  | nil => simp [put]
  | cons p rest ih =>
    obtain ⟨k, v⟩ := p
    by_cases h : k = key
    · simp [put, h]
    · have hk : (key == k) = false := beq_eq_false_iff_ne.2 (Ne.symm h)
      simp [put, h, List.lookup_cons, hk, ih]

theorem lookup_put_of_ne {α : Type} {key other : String} (h : other ≠ key) (value : α)
    (l : List (String × α)) : (put key value l).lookup other = l.lookup other := by
  have ho : (other == key) = false := beq_eq_false_iff_ne.2 h
  induction l with
  | nil => simp [put, List.lookup_cons, ho]
  | cons p rest ih =>
    obtain ⟨k, v⟩ := p
    by_cases hk : k = key
    · simp [put, hk, List.lookup_cons, ho]
    · simp [put, hk, List.lookup_cons, ih]

end KeyValueServer

/-- A client's connection, and the server behind it. -/
structure Connection where
  server : KeyValueServer
  alive : Bool := true
  deriving Inhabited

namespace Connection

def reconnect (c : Connection) : Connection := { c with alive := true }

/-- Sends one command; `none` when it fails. -/
def attempt {α : Type} (command : KeyValueServer → α × KeyValueServer) (c : Connection) :
    Option α × Connection :=
  if !c.alive then (none, c)
  else match c.server.faults with
    | [] =>
      let (a, server) := command c.server
      (some a, { c with server })
    | fault :: faults =>
      (none, { server := { c.server with faults }, alive := fault != .hangUp })

/-- A command that failed is sent again over a new connection. -/
def attemptTwice {α : Type} (command : KeyValueServer → α × KeyValueServer) (c : Connection) :
    Option α × Connection :=
  match c.attempt command with
  | (some a, c) => (some a, c)
  | (none, c) => c.reconnect.attempt command

end Connection

end FixGrader
