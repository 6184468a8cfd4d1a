import Rebill.Payment.Basic
import Rebill.Charge.Basic
import Rebill.Method
import Rebill.Audit
import Rebill.Error

/-!
# The store

The `Store` keeps payments, stored methods, attempts and the audit log, each in the order in
which its entries were first written, and hands out new identifiers. Every attempt also carries
a sequence number, renewed by each overwrite, and the latest attempt of a parent is the one with
the highest number.

An attempt is always read with the current token of its method, when the method exists. Writes
that name a missing entry fail with a `Fault.notFound`; nothing else fails.
-/

namespace Rebill

/-- An attempt with its sequence number. -/
structure ChargeRow where
  charge : Charge
  seq : Nat
deriving Repr, Inhabited

/-- The order in which the store hands out the due attempts it found: some permutation of them,
which the store draws at random. -/
structure Shuffle where
  order : List Charge → List Charge
  perm : ∀ l, (order l).Perm l

def Shuffle.keep : Shuffle := ⟨id, List.Perm.refl⟩

instance : Inhabited Shuffle := ⟨Shuffle.keep⟩

/-- Payments, methods, attempts and the audit log. -/
structure Store where
  payments : List Payment := []
  methods : List Method := []
  rows : List ChargeRow := []
  audit : List AuditEntry := []
  seq : Nat := 0
  serial : Nat := 0
deriving Repr, Inhabited

/-- Replaces the first entry with the same key, or appends. -/
def upsert {α : Type} (key : α → Ident) (x : α) : List α → List α
  | [] => [x]
  | y :: ys => if key y = key x then x :: ys else y :: upsert key x ys

def modifyFirst {α : Type} (key : α → Ident) (k : Ident) (f : α → α) : List α → List α
  | [] => []
  | y :: ys => if key y = k then f y :: ys else y :: modifyFirst key k f ys

/-- The last of the entries with the greatest key; ties go to the later entry. -/
def lastMaxBy {α : Type} (key : α → Int) : List α → Option α :=
  List.foldl (fun best x =>
    match best with
    | none => some x
    | some b => if key x ≥ key b then some x else some b) none

namespace Store

def fresh (s : Store) : Ident × Store :=
  (Ident.ofSerial (s.serial + 1), { s with serial := s.serial + 1 })

def payment? (s : Store) (id : Ident) : Option Payment := s.payments.find? (·.id == id)

def method? (s : Store) (id : Ident) : Option Method := s.methods.find? (·.id == id)

/-- The attempt as read: with its method's current token, when the method exists. -/
def withToken (s : Store) (c : Charge) : Charge :=
  match s.method? c.method with
  | some m => { c with token := m.token }
  | none => c

def row? (s : Store) (id : Ident) : Option ChargeRow := s.rows.find? (·.charge.id == id)

def charge? (s : Store) (id : Ident) : Option Charge := (s.row? id).map (s.withToken ·.charge)

/-- All attempts, as read, in the order of their first write. -/
def charges (s : Store) : List Charge := s.rows.map (s.withToken ·.charge)

/-- Writes a payment as given, replacing one with its identifier. -/
def insertPayment (s : Store) (p : Payment) : Store :=
  { s with payments := upsert (·.id) p s.payments }

/-- Writes an attempt as given, replacing one with its identifier; it takes a new sequence
number. -/
def putCharge (s : Store) (c : Charge) : Store :=
  { s with rows := upsert (·.charge.id) ⟨c, s.seq + 1⟩ s.rows, seq := s.seq + 1 }

/-- The attempts of a parent payment in the order of their sequence numbers. -/
def chargesForParent (s : Store) (parent : Ident) : List Charge :=
  ((s.rows.filter (·.charge.parent == parent)).mergeSort (fun a b => a.seq ≤ b.seq)).map
    (s.withToken ·.charge)

def createPayment (s : Store) (d : PaymentDraft) (now : Instant) : Payment × Store :=
  let (id, s) := s.fresh
  let p := Payment.ofDraft id d now
  (p, { s with payments := s.payments ++ [p] })

def savePaymentStatus (s : Store) (id : Ident) (w : StatusWrite) (now : Instant) :
    Except Fault (Payment × Store) :=
  match s.payment? id with
  | none => .error (.notFound ("Payment " ++ id.text ++ " not found"))
  | some p =>
    let p' := p.write w now
    .ok (p', { s with payments := modifyFirst (·.id) id (fun _ => p') s.payments })

/-- The method of a user at a gateway with a token, made if there is none. -/
def findOrCreateMethod (s : Store) (user : Ident) (gateway token : String) (now : Instant) :
    Method × Store :=
  match s.methods.find? (fun m => m.user == user && m.gateway == gateway && m.token == token) with
  | some m => (m, s)
  | none =>
    let (id, s) := s.fresh
    let m : Method := ⟨id, user, gateway, token, none, now⟩
    (m, { s with methods := s.methods ++ [m] })

def methodsOfGateway (s : Store) (gateway : String) : List Method :=
  (s.methods.filter (·.gateway == gateway)).mergeSort (fun a b => a.created.key ≤ b.created.key)

def setMethodExpiry (s : Store) (id : Ident) (d : Date) : Except Fault Store :=
  match s.method? id with
  | none => .error (.notFound ("Payment method " ++ id.text ++ " not found"))
  | some _ => .ok { s with methods := modifyFirst (·.id) id (fun m => { m with expiresOn := some d })
                                        s.methods }

/-- Makes an attempt from a draft; its method and parent payment must exist. -/
def createCharge (s : Store) (d : ChargeDraft) (now : Instant) : Except Fault (Charge × Store) :=
  match s.method? d.method with
  | none => .error (.notFound ("Payment method " ++ d.method.text ++ " not found"))
  | some m =>
    if (s.payment? d.parent).isNone then
      .error (.notFound ("Parent payment " ++ d.parent.text ++ " not found"))
    else
      let (id, s) := s.fresh
      let c := Charge.ofDraft id d m.token now
      .ok (c, { s with rows := s.rows ++ [⟨c, s.seq + 1⟩], seq := s.seq + 1 })

/-- The attempt of a parent with the highest sequence number. -/
def latestForParent (s : Store) (parent : Ident) : Option Charge :=
  (lastMaxBy (fun r => (r.seq : Int)) (s.rows.filter (·.charge.parent == parent))).map
    (s.withToken ·.charge)

/-- Writes the state, status, payment, retries, due instant and note of an attempt. -/
def saveCharge (s : Store) (c : Charge) (now : Instant) : Except Fault (Charge × Store) :=
  match s.row? c.id with
  | none => .error (.notFound ("Recurrent charge " ++ c.id.text ++ " not found"))
  | some r =>
    let stored := { r.charge with state := c.state, status := c.status, payment := c.payment,
                                  retries := c.retries, chargeAt := c.chargeAt, note := c.note,
                                  updated := now }
    let s' := { s with rows := modifyFirst (·.charge.id) c.id (fun r => { r with charge := stored })
                                 s.rows }
    .ok (s'.withToken stored, s')

/-- Whether an attempt is due by `dueBefore`: active, without status, with a budget that is not
negative, and due by then. -/
def isDue (dueBefore : Instant) (c : Charge) : Bool :=
  c.state == .active && c.status.isNone && decide (c.retries ≥ 0) && decide (c.chargeAt ≤ dueBefore)

/-- The attempts due by `dueBefore`, among `ids` when given, in the order `shuffle` hands them
out. -/
def findChargeable (s : Store) (shuffle : Shuffle) (dueBefore : Instant) (ids : Option (List Ident)) :
    List Charge :=
  shuffle.order ((s.charges.filter (isDue dueBefore)).filter (fun c => match ids with
    | some l => l.contains c.id
    | none => true))

/-- The charged attempt on a method, other than `exclude`, that was due last. -/
def lastChargedForMethod (s : Store) (method exclude : Ident) : Option Charge :=
  lastMaxBy (·.chargeAt.key)
    (s.charges.filter (fun c => c.method == method && c.state == .charged && c.id != exclude))

/-- The attempt other than `exclude`, due after `after`, whose method exists and has the token,
that is due last. -/
def latestForTokenAfter (s : Store) (token : String) (after : Instant) (exclude : Ident) :
    Option Charge :=
  lastMaxBy (·.chargeAt.key)
    (s.charges.filter (fun c => c.id != exclude && decide (c.chargeAt > after) &&
      (match s.method? c.method with
        | some m => m.token == token
        | none => false)))

def appendAudit (s : Store) (e : AuditEntry) : Store := { s with audit := s.audit ++ [e] }

/-- The audit entries of a payment, in the order written. -/
def auditOf (s : Store) (payment : Ident) : List AuditEntry := s.audit.filter (·.payment == payment)

end Store

end Rebill
