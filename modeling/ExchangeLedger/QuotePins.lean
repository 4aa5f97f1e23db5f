import ExchangeLedger.Concurrent
import ExchangeLedger.Schema

set_option autoImplicit false

/-! Quotes in the temporary store: how they are created, previewed, marked as PIN-verified and
checked by the confirm calls. -/

namespace ExchangeLedger

open Concurrent

namespace QuotationService

inductive Side where
  | buy | sell | swap | send
  deriving DecidableEq, Repr

inductive PaymentType where
  | CARD | PAYSTACK
  deriving DecidableEq, Repr

/-- `${side}:${quoteId}`. -/
abbrev Key := Side × Reference

/-- A stored quote; its currencies, prices and amounts are its `details`. -/
structure Quote (δ : Type) where
  userId : UserId
  side : Side
  details : δ
  expiresAt : Nat
  pinVerified : Option Bool
  pinVerifiedAt : Option Nat
  paymentMethod : Option PaymentType
  cardId : Option Nat
  bankAccountId : Option Nat
  deriving DecidableEq, Repr

/-- What has happened to the quotes, with the user who called. -/
inductive Entry (δ : Type) where
  | created (k : Key) (userId : UserId) (details : δ)
  /-- The PIN was right. -/
  | verified (k : Key) (userId : UserId) (details : δ)
  /-- A confirm call got past its checks. -/
  | passed (flow : Side) (id : Reference) (userId : UserId) (q : Quote δ)
  deriving DecidableEq, Repr

structure Quotes (δ : Type) where
  store : Table Key (Quote δ)
  /-- The hashes of the PINs. -/
  pins : Table UserId Text
  now : Nat
  history : List (Entry δ)

/-- What a stored quote is read for. -/
inductive Purpose where
  | previewBuy (userId : UserId) (method : Option PaymentType) (cardId : Option Nat)
  | previewSell (userId : UserId) (bankAccountId : Nat)
  | previewSwap (userId : UserId)
  | verifyPin (userId : UserId) (pin : Text)
  | confirm (flow : Side) (userId : UserId)
  deriving DecidableEq, Repr

/-- `getBuyQuote`, `getSellQuote`, `getSwapQuote` and `previewSend` create a quote. -/
inductive Call (δ : Type) where
  | create (side : Side) (userId : UserId) (details : δ)
  | use (p : Purpose) (id : Reference)

inductive Task (δ : Type) where
  | creating (side : Side) (userId : UserId) (details : δ)
  /-- The keys left to read, and the first quote found. -/
  | fetching (p : Purpose) (id : Reference) (left : List Side) (found : Option (Side × Quote δ))
  | findingCard (id : Reference) (q : Quote δ) (cardId : Nat)
  | findingBankAccount (id : Reference) (q : Quote δ) (bankAccountId : Nat)
  | comparing (userId : UserId) (pin : Text) (id : Reference) (q : Quote δ)
  | storing (k : Key) (q : Quote δ)
  | updating (id : Reference) (q : Quote δ)
  | deleting (ks : List Key)

inductive Outcome where
  | ok | fails
  | created (id : Reference)
  deriving DecidableEq, Repr

inductive Outside where
  | wait (time : Nat)
  | expire (k : Key)
  | setPin (userId : UserId) (hash : Text)

def QUOTE_TTL_SECONDS : Nat := 60 * 5

/-- The keys that a call reads: one, or all of them in `getQuote`. -/
def Purpose.sides : Purpose → List Side
  | .previewBuy .. => [.buy]
  | .previewSwap _ => [.swap]
  | .confirm .buy _ => [.buy]
  | .confirm .swap _ => [.swap]
  | .confirm .send _ => [.send]
  | .previewSell .. | .verifyPin .. | .confirm .sell _ => [.buy, .sell, .swap, .send]

/-- The keys that a confirm call deletes. -/
def confirmedKeys (id : Reference) : Side → List Key
  | .sell => [(.buy, id), (.sell, id), (.swap, id)]
  | flow => [(flow, id)]

section Calls

variable {δ : Type}

def newQuote (side : Side) (userId : UserId) (details : δ) (now : Nat) : Quote δ where
  userId := userId
  side := side
  details := details
  expiresAt := now + QUOTE_TTL_SECONDS * 1000
  pinVerified := some false
  pinVerifiedAt := none
  paymentMethod := none
  cardId := none
  bankAccountId := none

def Quotes.set (s : Quotes δ) (k : Key) (q : Quote δ) : Quotes δ :=
  { s with store := s.store.insert k q }

def Quotes.log (s : Quotes δ) (e : Entry δ) : Quotes δ := { s with history := e :: s.history }

def Quotes.expired (s : Quotes δ) (q : Quote δ) : Bool := q.expiresAt < s.now

/-- The key under which `verifyPinForQuote` stores the quote. -/
def verifiedKey (id : Reference) : Side → Key
  | .buy => (.buy, id)
  | .sell => (.sell, id)
  | .swap => (.swap, id)
  | _ => (.send, id)

/-- A confirm call that got past its checks. -/
def pass (flow : Side) (userId : UserId) (id : Reference) (q : Quote δ) (s : Quotes δ) :
    Quotes δ × Option (Task δ) :=
  (s.log (.passed flow id userId q), some (.deleting (confirmedKeys id flow)))

/-- How a call goes on with the quote it found under `side`. -/
def Purpose.check (id : Reference) (side : Side) (q : Quote δ) (s : Quotes δ) :
    Purpose → Quotes δ × Option (Task δ)
  | .previewBuy userId method cardId =>
    if q.userId ≠ userId then (s, none)
    else if s.expired q then (s, some (.deleting [(.buy, id)]))
    else
      match method, cardId with
      | none, _ | some .CARD, none => (s, none)
      | some .CARD, some cardId => (s, some (.findingCard id q cardId))
      | some .PAYSTACK, _ =>
        (s, some (.storing (.buy, id) { q with paymentMethod := some .PAYSTACK }))
  | .previewSell userId bankAccountId =>
    if s.expired q then (s, some (.deleting [(side, id)]))
    else if q.userId ≠ userId then (s, none)
    else (s, some (.findingBankAccount id q bankAccountId))
  | .previewSwap userId =>
    if q.userId ≠ userId then (s, none)
    else if s.expired q then (s, some (.deleting [(.swap, id)]))
    else (s, none)
  | .verifyPin userId pin =>
    if s.expired q then (s, some (.deleting [(side, id)]))
    else if q.pinVerified.isNone then (s, none)
    else if q.userId ≠ userId then (s, none)
    else (s, some (.comparing userId pin id q))
  | .confirm .sell userId =>
    if s.expired q then (s, some (.deleting [(side, id)]))
    else if q.userId ≠ userId then (s, none)
    else if q.pinVerified = some true then pass .sell userId id q s
    else (s, none)
  | .confirm flow userId =>
    if q.userId ≠ userId then (s, none)
    else if q.pinVerified = some true then
      if s.expired q then (s, some (.deleting [(flow, id)]))
      else pass flow userId id q s
    else (s, none)

/-- One step of a call. The store answers a read that fails as if there were no such key. -/
def resume (compareHash : Text → Text → Bool) (t : Task δ) (o : Outcome) (s : Quotes δ) :
    Quotes δ × Option (Task δ) :=
  match t, o with
  | .creating side userId details, .created id =>
    ((s.set (side, id) (newQuote side userId details s.now)).log
      (.created (side, id) userId details), none)
  | .fetching p id (side :: left) found, .ok =>
    (s, some (.fetching p id left (found.or ((s.store.lookup (side, id)).map
      (fun q => (side, q))))))
  | .fetching p id (_ :: left) found, .fails => (s, some (.fetching p id left found))
  | .fetching p id [] (some (side, q)), .ok => p.check id side q s
  | .findingCard id q cardId, .ok =>
    (s, some (.storing (.buy, id) { q with paymentMethod := some .CARD, cardId := some cardId }))
  | .findingBankAccount id q bankAccountId, .ok =>
    (s, some (.updating id { q with bankAccountId := some bankAccountId }))
  | .comparing userId pin id q, .ok =>
    if (s.pins.lookup userId).any (compareHash pin) then
      (s.log (.verified (verifiedKey id q.side) userId q.details),
        some (.storing (verifiedKey id q.side)
          { q with pinVerified := some true, pinVerifiedAt := some s.now }))
    else (s, none)
  | .storing k q, .ok => (s.set k q, none)
  | .updating id q, .ok =>
    if s.now < q.expiresAt then (s.set (q.side, id) q, none) else (s, none)
  | .deleting (k :: ks), .ok =>
    ({ s with store := s.store.erase k }, if ks.isEmpty then none else some (.deleting ks))
  | .deleting (_ :: ks), .fails => (s, if ks.isEmpty then none else some (.deleting ks))
  | _, _ => (s, none)

def start : Call δ → Option (Task δ)
  | .create side userId details => some (.creating side userId details)
  | .use p id => some (.fetching p id p.sides none)

/-- Calls of any users, while keys expire and PINs change. -/
def calls (compareHash : Text → Text → Bool) :
    Handlers (Quotes δ) (Task δ) (Call δ) Outcome Outside where
  start := fun c _ => start c
  resume := resume compareHash
  outside
    | .wait time, s => { s with now := s.now + time }
    | .expire k, s => { s with store := s.store.erase k }
    | .setPin userId hash, s => { s with pins := s.pins.insert userId hash }

end Calls

/-! ### What a stored quote stands for -/

section Verified

variable {δ : Type} {compareHash : Text → Text → Bool} {h : List (Entry δ)} {k : Key}
  {q : Quote δ}

/-- A user verified a quote after having created it. -/
def Verified (h : List (Entry δ)) (k : Key) (userId : UserId) (details : δ) : Prop :=
  ∃ later earlier, h = later ++ .verified k userId details :: earlier ∧
    .created k userId details ∈ earlier

/-- A quote as the store may hold it under a key. -/
structure Genuine (h : List (Entry δ)) (k : Key) (q : Quote δ) : Prop where
  side : q.side = k.1
  created : .created k q.userId q.details ∈ h
  verified : q.pinVerified = some true → Verified h k q.userId q.details

/-- What a task's copy of a quote is worth. -/
def Task.Sound (h : List (Entry δ)) : Task δ → Prop
  | .fetching p id left found => (∀ side ∈ left, side ∈ p.sides) ∧
    ∀ side q, found = some (side, q) → side ∈ p.sides ∧ Genuine h (side, id) q
  | .findingCard id q _ => Genuine h (.buy, id) q
  | .findingBankAccount id q _ | .updating id q => Genuine h (q.side, id) q
  | .comparing userId _ id q => q.userId = userId ∧ Genuine h (q.side, id) q
  | .storing k q => Genuine h k q
  | .creating .. | .deleting _ => True

/-- Every confirm call that got past its checks presented a quote of its caller which the caller
had created and then verified. -/
def Authorised (h : List (Entry δ)) : Prop :=
  ∀ later earlier flow id userId q, h = later ++ .passed flow id userId q :: earlier →
    q.userId = userId ∧ (flow = .sell ∨ q.side = flow) ∧
      Verified earlier (q.side, id) userId q.details

theorem Verified.cons {userId : UserId} {details : δ} (hv : Verified h k userId details)
    (e : Entry δ) : Verified (e :: h) k userId details := by
  obtain ⟨later, earlier, rfl, hcreated⟩ := hv
  exact ⟨e :: later, earlier, rfl, hcreated⟩

theorem Genuine.cons (hq : Genuine h k q) (e : Entry δ) : Genuine (e :: h) k q where
  side := hq.side
  created := List.mem_cons_of_mem e hq.created
  verified := fun hpin => (hq.verified hpin).cons e

theorem Task.Sound.cons {t : Task δ} (ht : t.Sound h) (e : Entry δ) : t.Sound (e :: h) := by
  cases t with
  | fetching p id left found =>
    exact ⟨ht.1, fun side q hfound => ⟨(ht.2 side q hfound).1, (ht.2 side q hfound).2.cons e⟩⟩
  | findingCard id q cardId => exact Genuine.cons ht e
  | findingBankAccount id q bankAccountId => exact Genuine.cons ht e
  | updating id q => exact Genuine.cons ht e
  | comparing userId pin id q => exact ⟨ht.1, ht.2.cons e⟩
  | storing k q => exact Genuine.cons ht e
  | creating side userId details => trivial
  | deleting ks => trivial

theorem Authorised.cons (ha : Authorised h) {e : Entry δ}
    (he : ∀ flow id userId q, e = .passed flow id userId q →
      q.userId = userId ∧ (flow = .sell ∨ q.side = flow) ∧
        Verified h (q.side, id) userId q.details) : Authorised (e :: h) := by
  intro later earlier flow id userId q hsplit
  cases later with
  | nil =>
    obtain ⟨rfl, rfl⟩ := List.cons.inj hsplit
    exact he flow id userId q rfl
  | cons d later => exact ha later earlier flow id userId q (List.cons.inj hsplit).2

theorem verifiedKey_eq (id : Reference) (side : Side) : verifiedKey id side = (side, id) := by
  cases side <;> rfl

/-- The invariant: everything stored, held or done is backed by the history. -/
structure Backed (s : Quotes δ) : Prop where
  store : ∀ k q, s.store.lookup k = some q → Genuine s.history k q
  authorised : Authorised s.history

/-- What a task's step leaves behind. -/
structure Resumed (s : Quotes δ) (r : Quotes δ × Option (Task δ)) : Prop where
  backed : Backed r.1
  history : r.1.history = s.history ∨ ∃ e, r.1.history = e :: s.history
  sound : ∀ t, r.2 = some t → t.Sound r.1.history

theorem Backed.set {s : Quotes δ} (hs : Backed s) (hq : Genuine s.history k q) :
    Backed (s.set k q) := by
  constructor
  · intro j p hj
    simp only [Quotes.set, Table.lookup_insert] at hj
    split at hj
    · rename_i hjk
      cases hj
      rw [hjk]
      exact hq
    · exact hs.store j p hj
  · exact hs.authorised

theorem Backed.erase {s : Quotes δ} (hs : Backed s) (k : Key) :
    Backed { s with store := s.store.erase k } := by
  constructor
  · intro j p hj
    by_cases hjk : j = k
    · subst hjk
      simp at hj
    · rw [AList.lookup_erase_ne hjk] at hj
      exact hs.store j p hj
  · exact hs.authorised

theorem Backed.log {s : Quotes δ} (hs : Backed s) {e : Entry δ}
    (he : ∀ flow id userId q, e = .passed flow id userId q →
      q.userId = userId ∧ (flow = .sell ∨ q.side = flow) ∧
        Verified s.history (q.side, id) userId q.details) : Backed (s.log e) where
  store := fun k q hk => (hs.store k q hk).cons e
  authorised := hs.authorised.cons he

theorem Resumed.goesOn {s : Quotes δ} (hs : Backed s) {next : Option (Task δ)}
    (hnext : ∀ t, next = some t → t.Sound s.history) : Resumed s (s, next) :=
  ⟨hs, .inl rfl, hnext⟩

theorem Resumed.ends {s : Quotes δ} (hs : Backed s) : Resumed s (s, none) :=
  .goesOn hs (by simp)

theorem Resumed.deletes {s : Quotes δ} (hs : Backed s) (ks : List Key) :
    Resumed s (s, some (.deleting ks)) := by
  apply Resumed.goesOn hs
  intro t ht
  cases ht
  trivial

theorem pass_resumed {s : Quotes δ} (hs : Backed s) {flow side : Side} {userId : UserId}
    {id : Reference} (hq : Genuine s.history (side, id) q) (hflow : flow = .sell ∨ side = flow)
    (hown : q.userId = userId) (hpin : q.pinVerified = some true) :
    Resumed s (pass flow userId id q s) := by
  have hside : q.side = side := hq.side
  constructor
  · apply hs.log
    intro flow' id' userId' q' he
    cases he
    rw [hside, ← hown]
    exact ⟨rfl, hflow, hq.verified hpin⟩
  · exact .inr ⟨_, rfl⟩
  · intro t ht
    cases ht
    trivial

theorem check_resumed {s : Quotes δ} (hs : Backed s) {p : Purpose} {id : Reference} {side : Side}
    (hside : side ∈ p.sides) (hq : Genuine s.history (side, id) q) :
    Resumed s (p.check id side q s) := by
  have hown : Genuine s.history (q.side, id) q := by
    rw [hq.side]
    exact hq
  cases p with
  | previewBuy userId method cardId =>
    obtain rfl : side = .buy := by simpa [Purpose.sides] using hside
    simp only [Purpose.check]
    split
    · exact .ends hs
    · split
      · exact .deletes hs _
      · split
        · exact .ends hs
        · exact .ends hs
        · exact .goesOn hs (by simp [Task.Sound, hq])
        · exact .goesOn hs (by simp [Task.Sound]; exact ⟨hq.side, hq.created, hq.verified⟩)
  | previewSell userId bankAccountId =>
    simp only [Purpose.check]
    split
    · exact .deletes hs _
    · split
      · exact .ends hs
      · exact .goesOn hs (by simp [Task.Sound, hown])
  | previewSwap userId =>
    simp only [Purpose.check]
    split
    · exact .ends hs
    · split
      · exact .deletes hs _
      · exact .ends hs
  | verifyPin userId pin =>
    simp only [Purpose.check]
    split
    · exact .deletes hs _
    · split
      · exact .ends hs
      · split
        · exact .ends hs
        · rename_i hcaller
          exact .goesOn hs (by simp [Task.Sound, hown, not_not.mp hcaller])
  | confirm flow userId =>
    have hflow : flow = .sell ∨ side = flow := by
      cases flow <;> simp_all [Purpose.sides]
    cases flow with
    | sell =>
      simp only [Purpose.check]
      split
      · exact .deletes hs _
      · split
        · exact .ends hs
        · rename_i hcaller
          split
          · rename_i hpin
            exact pass_resumed hs hq hflow (not_not.mp hcaller) hpin
          · exact .ends hs
    | _ =>
      simp only [Purpose.check]
      split
      · exact .ends hs
      · rename_i hcaller
        split
        · rename_i hpin
          split
          · exact .deletes hs _
          · exact pass_resumed hs hq hflow (not_not.mp hcaller) hpin
        · exact .ends hs

theorem comparing_resumed {s : Quotes δ} (hs : Backed s) {userId : UserId} {pin : Text}
    {id : Reference} (ht : (Task.comparing userId pin id q).Sound s.history) :
    Resumed s (resume compareHash (.comparing userId pin id q) .ok s) := by
  obtain ⟨hcaller, hq⟩ := ht
  simp only [resume, verifiedKey_eq]
  split
  · have hverified : Verified (.verified (q.side, id) userId q.details :: s.history) (q.side, id)
        q.userId q.details := by
      rw [hcaller]
      exact ⟨[], s.history, rfl, hcaller ▸ hq.created⟩
    constructor
    · exact hs.log (by intro _ _ _ _ h; cases h)
    · exact .inr ⟨_, rfl⟩
    · intro t ht
      cases ht
      exact ⟨rfl, List.mem_cons_of_mem _ hq.created, fun _ => hverified⟩
  · exact .ends hs

theorem resume_resumed {s : Quotes δ} (hs : Backed s) {t : Task δ} (ht : t.Sound s.history)
    (o : Outcome) : Resumed s (resume compareHash t o s) := by
  cases t with
  | creating side userId details =>
    cases o with
    | created id =>
      have hnew : Genuine (.created (side, id) userId details :: s.history) (side, id)
          (newQuote side userId details s.now) := ⟨rfl, List.mem_cons_self, nofun⟩
      constructor
      · have hlogged : Backed (s.log (.created (side, id) userId details)) :=
          hs.log (by intro _ _ _ _ h; cases h)
        exact hlogged.set hnew
      · exact .inr ⟨_, rfl⟩
      · simp [resume]
    | _ => exact .ends hs
  | fetching p id left found =>
    obtain ⟨hleft, hfound⟩ := ht
    cases left with
    | nil =>
      cases found with
      | none => cases o <;> exact .ends hs
      | some read =>
        cases o with
        | ok =>
          obtain ⟨hside, hq⟩ := hfound read.1 read.2 rfl
          exact check_resumed hs hside hq
        | _ => exact .ends hs
    | cons side left =>
      have hrest : ∀ j ∈ left, j ∈ p.sides := fun j hj => hleft j (List.mem_cons_of_mem _ hj)
      cases o with
      | ok =>
        apply Resumed.goesOn hs
        intro t ht
        cases ht
        refine ⟨hrest, fun j q hq => ?_⟩
        rcases Option.or_eq_some_iff.mp hq with hq | ⟨-, hq⟩
        · exact hfound j q hq
        · obtain ⟨r, hr, hjq⟩ := Option.map_eq_some_iff.mp hq
          cases hjq
          exact ⟨hleft side List.mem_cons_self, hs.store _ _ hr⟩
      | fails =>
        apply Resumed.goesOn hs
        intro t ht
        cases ht
        exact ⟨hrest, hfound⟩
      | created _ => exact .ends hs
  | findingCard id q cardId =>
    cases o with
    | ok =>
      apply Resumed.goesOn hs
      intro t h
      cases h
      exact ⟨ht.side, ht.created, ht.verified⟩
    | _ => exact .ends hs
  | findingBankAccount id q bankAccountId =>
    cases o with
    | ok =>
      apply Resumed.goesOn hs
      intro t h
      cases h
      exact ⟨ht.side, ht.created, ht.verified⟩
    | _ => exact .ends hs
  | comparing userId pin id q =>
    cases o with
    | ok => exact comparing_resumed hs ht
    | _ => exact .ends hs
  | storing k q =>
    cases o with
    | ok => exact ⟨hs.set ht, .inl rfl, by simp [resume]⟩
    | _ => exact .ends hs
  | updating id q =>
    cases o with
    | ok =>
      simp only [resume]
      split
      · exact ⟨hs.set ht, .inl rfl, by simp⟩
      · exact .ends hs
    | _ => exact .ends hs
  | deleting ks =>
    cases ks with
    | nil => cases o <;> exact .ends hs
    | cons k ks =>
      have hrest : ∀ t : Task δ, (if ks.isEmpty then none else some (.deleting ks)) = some t →
          t.Sound s.history := by
        intro t h
        split at h
        · cases h
        · cases h
          trivial
      cases o with
      | ok => exact ⟨hs.erase k, .inl rfl, hrest⟩
      | fails => exact .goesOn hs hrest
      | created _ => exact .ends hs

/-- Everything in a state of the system is backed by its history. -/
def Sound (s : System (Quotes δ) (Task δ)) : Prop :=
  Backed s.state ∧ ∀ t ∈ s.running, t.Sound s.state.history

theorem Sound.step {s : System (Quotes δ) (Task δ)} (hs : Sound s)
    (e : Event (Call δ) Outcome Outside) : Sound ((calls compareHash).step e s) := by
  obtain ⟨hbacked, hrunning⟩ := hs
  cases e with
  | start c =>
    refine ⟨hbacked, Handlers.forall_running_start hrunning ?_⟩
    intro t ht
    cases c with
    | create side userId details =>
      cases ht
      trivial
    | use p id =>
      cases ht
      exact ⟨fun _ h => h, by simp⟩
  | resume n o =>
    cases hn : s.running[n]? with
    | none =>
      rw [Handlers.step_resume_none hn]
      exact ⟨hbacked, hrunning⟩
    | some u =>
      have hu := hrunning u (List.mem_of_getElem? hn)
      have hr : Resumed s.state (resume compareHash u o s.state) := resume_resumed hbacked hu o
      have hstay : ∀ t : Task δ, t.Sound s.state.history →
          t.Sound (resume compareHash u o s.state).1.history := by
        intro t ht
        rcases hr.history with h | ⟨e, h⟩
        · rw [h]
          exact ht
        · rw [h]
          exact ht.cons e
      rw [Handlers.step_resume hn]
      refine ⟨hr.backed, fun t ht => ?_⟩
      rcases List.mem_append.mp ht with ht | ht
      · exact hstay t (hrunning t (List.mem_of_mem_eraseIdx ht))
      · exact hr.sound t (Option.mem_toList.mp ht)
  | outside x =>
    cases x with
    | wait time => exact ⟨⟨hbacked.store, hbacked.authorised⟩, hrunning⟩
    | expire k => exact ⟨hbacked.erase k, hrunning⟩
    | setPin userId hash => exact ⟨⟨hbacked.store, hbacked.authorised⟩, hrunning⟩

/-- Every confirm call that got past its checks was authorised, and so is every quote that is
stored as verified, by the user it belongs to. -/
structure PinChecked (s : Quotes δ) : Prop where
  passed : Authorised s.history
  stored : ∀ k q, s.store.lookup k = some q → q.pinVerified = some true →
    Verified s.history k q.userId q.details

theorem confirm_needs_pin (compareHash : Text → Text → Bool) (pins : Table UserId Text) (now : Nat)
    (events : List (Event (Call δ) Outcome Outside)) :
    Run.Throughout (calls compareHash).step (fun s => PinChecked s.state)
      ⟨⟨∅, pins, now, []⟩, []⟩ events := by
  have hstart : Sound (δ := δ) ⟨⟨∅, pins, now, []⟩, []⟩ := by
    refine ⟨⟨fun k q hk => ?_, fun later earlier flow id userId q h => ?_⟩, by simp⟩
    · simp at hk
    · simp at h
  have hsound : Run.Throughout (calls compareHash).step Sound ⟨⟨∅, pins, now, []⟩, []⟩ events :=
    Run.throughout_of_step (fun _ e hs => hs.step e) hstart events
  apply hsound.mono
  intro s hs
  exact ⟨hs.1.authorised, fun k q hk => (hs.1.store k q hk).verified⟩

end Verified

/-- A quote that its user creates and verifies can be confirmed. -/
example :
    (Run.final (calls (fun pin hash => decide (pin = hash))).step
      ⟨⟨∅, (∅ : Table UserId Text).insert 1 ['7'], 0, []⟩, []⟩
      ([.start (.create .buy 1 500), .resume 0 (.created 9),
        .start (.use (.verifyPin 1 ['7']) 9)] ++
        List.replicate 7 (.resume 0 .ok) ++
        [.start (.use (.confirm .buy 1) 9), .resume 0 .ok, .resume 0 .ok])).state.history.map
      (fun e => match e with
        | .created .. => 'c'
        | .verified .. => 'v'
        | .passed .. => 'p') = ['p', 'v', 'c'] := by
  decide +kernel

end QuotationService

end ExchangeLedger
