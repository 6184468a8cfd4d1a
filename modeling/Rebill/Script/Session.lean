import Rebill.Script.Names
import Rebill.Script.Fields
import Rebill.Script.Encode

/-!
# Script sessions

A `Session` is the engine a script drives, with its name table. Commands run in `Step`: they may
refuse, keeping the changes made before the refusal. `Step.engine` runs an operation of the
engine inside a command: an error of the engine becomes a refusal, and an overflow stops the
script.

After every command the session discovers the payments the engine opened: it walks the attempts
it has seen, in order, and names each payment they link that has no name yet. `snapshot` shows
the attempts, payments and methods the session has seen and that exist, with the audit log of the
payments.
-/

namespace Rebill.Script

/-- The engine a script drives, its names, and how the engine was built. -/
structure Session where
  engine : Engine
  names : NameTable := {}
  /-- Built from environment settings: the script has no handle on the store or the locks. -/
  fromSettings : Bool := false
  /-- The scripted gateways that keep every behaviour but charging and expiry support at the
  default. -/
  plainGateways : List String := []
deriving Inhabited

/-- A command of a script. -/
abbrev Step := ExceptT Refusal (StateM Session)

namespace Step

def read {α : Type} (r : Reading α) : Step α :=
  match r with
  | .ok a => pure a
  | .error e => throw e

def engine {α : Type} (act : Svc α) : Step α := do
  let s ← get
  match (act.run).run s.engine with
  | .error o => throw (.halt o.message)
  | .ok (r, e) =>
    set { s with engine := e }
    match r with
    | .ok a => pure a
    | .error err => throw (.billing err)

def names (f : NameTable → NameTable) : Step Unit :=
  modify fun s => { s with names := f s.names }

/-- The identifier of a name; a new name stands for a new identifier. -/
def resolve (name : String) : Step Ident := do
  let s ← get
  match s.names.lookup? name with
  | some id => pure id
  | none =>
    if name.isEmpty ∨ name.startsWith "#" then throw (.badInput ("unknown name '" ++ name ++ "'"))
    let (id, store) := s.engine.store.fresh
    set { s with engine := { s.engine with store }, names := s.names.add name id }
    pure id

/-- The identifier named by a field that must be present. -/
def ident (o : Json) (k : String) : Step Ident := do
  resolve (← read (reqString o k))

def identOpt (o : Json) (k : String) : Step (Option Ident) := do
  match ← read (optString o k) with
  | some n => some <$> resolve n
  | none => pure none

def bindName (name : String) (id : Ident) : Step Unit := do
  if !NameTable.isGivenName name then throw (.badInput ("bad name '" ++ name ++ "'"))
  let s ← get
  match s.names.lookup? name with
  | some other => if other != id then throw (.badInput ("name '" ++ name ++ "' already bound"))
  | none => set { s with names := s.names.add name id }

/-- Names a new entity by the command's `as` field, or by a generated name of the kind. -/
def nameResult (o : Json) (kind : Char) (id : Ident) : Step Unit := do
  match ← read (optString o "as") with
  | some name => bindName name id
  | none => names (·.nameNew kind id)

/-- Names the payments of seen attempts that have no name yet. -/
def discover : Step Unit := do
  let s ← get
  let t := s.names.charges.foldl (fun t cid =>
    match (s.engine.store.charge? cid).bind (·.payment) with
    | some pid => if (t.nameOf? pid).isSome then t else (t.nameNew 'p' pid).seePayment pid
    | none => t) s.names
  set { s with names := t }

/-- The attempts, payments, methods and audit entries the session has seen. -/
def snapshot : Step Json := do
  let s ← get
  let st := s.engine.store
  let payments := s.names.payments.filterMap st.payment?
  pure (.object [
    ("charges", .array ((s.names.charges.filterMap st.charge?).map ofCharge)),
    ("logs", .array ((payments.flatMap (fun p => st.auditOf p.id)).map ofAudit)),
    ("methods", .array ((s.names.methods.filterMap st.method?).map ofMethod)),
    ("payments", .array (payments.map ofPayment))])

end Step

end Rebill.Script
