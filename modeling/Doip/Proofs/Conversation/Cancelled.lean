import Doip.Proofs.Conversation.Broken
import Doip.Proofs.Conversation.Renewed

/-! A disconnect or a shutdown that is called while another call waits, to the end of both. Each round in which both get
a turn brings them nearer to their end (`Ending.rounds`), so the call is broken off, whatever its connection has brought
and without any time having to pass, the canceller succeeds, and the conversation is empty and as good as new
(`broken_off`). -/

namespace Doip.Conversation

variable {c c' : Conversation} {id sid : Nat} {call : Call} {r : Role} {op : Operation} {off : Bool}

/-! Rounds. -/

def rankOf (c : Conversation) (id : Nat) : Nat := (c.threads[id]?.map (·.call.rank)).getD 0

def approaches (c : Conversation) (id : Nat) : Bool := c.threads[id]?.any (·.call.approaching)

def turns (c : Conversation) (id sid : Nat) : Nat :=
  c.rankOf sid + if c.approaches sid then 2 else min 2 (c.rankOf id)

/-- Whether the canceller is to take a turn or the call: the canceller until it has stopped the timer, and then the call
until it has ended. -/
def turnOf (c : Conversation) (id sid : Nat) : Nat :=
  if c.approaches sid || c.rankOf id == 0 then sid else id

/-- As long as a canceller has yet to stop the timer, it comes upon the call in a wait or broken off. -/
def MeetsAll (r : Role) (id sid : Nat) : Conversation → List Event → Prop
  | _, [] => True
  | c, e :: es =>
    (e = .advance sid → c.approaches sid = true → c.Meets r id sid) ∧ MeetsAll r id sid (c.apply {} e) es

/-- What happens to a call and its canceller: their steps, and the doings of network and time. -/
def Between (id sid : Nat) (e : Event) : Prop := e.isNetwork = true ∨ e = .advance id ∨ e = .advance sid

/-- A round in which both get a turn. -/
structure Round (id sid : Nat) (es : List Event) : Prop where
  between : ∀ e ∈ es, Between id sid e
  call : .advance id ∈ es
  canceller : .advance sid ∈ es

/-- The call and its canceller are nearer to their end, or the same one is still to take a turn. -/
def Nears (id sid : Nat) (c c' : Conversation) : Prop :=
  c'.turns id sid < c.turns id sid ∨ c'.turns id sid = c.turns id sid ∧ c'.turnOf id sid = c.turnOf id sid

theorem rankOf_eq {t : Thread} (ht : c.threads[id]? = some t) : c.rankOf id = t.call.rank := by
  rw [rankOf, ht]
  rfl

theorem approaches_eq {t : Thread} (ht : c.threads[id]? = some t) : c.approaches id = t.call.approaching := by
  rw [approaches, ht]
  rfl

theorem Nears.same (hid : c'.threads[id]? = c.threads[id]?) (hsid : c'.threads[sid]? = c.threads[sid]?) :
    Nears id sid c c' := by
  refine .inr ⟨?_, ?_⟩
  · rw [turns, turns, rankOf, rankOf, rankOf, rankOf, approaches, approaches, hid, hsid]
  · rw [turnOf, turnOf, rankOf, rankOf, approaches, approaches, hid, hsid]

theorem turns_le (c : Conversation) (id sid : Nat) : c.turns id sid ≤ c.rankOf sid + 2 := by
  unfold turns
  split <;> omega

theorem Coming.turns (h : Coming r op off id sid c) :
    c.turns id sid = c.rankOf sid + 2 ∧ c.turnOf id sid = sid := by
  obtain ⟨call, ht, hrises, -⟩ := h.canceller
  have happroaches : c.approaches sid = true := (approaches_eq ht).trans hrises.approaching
  exact ⟨by rw [Conversation.turns, if_pos happroaches], by rw [turnOf, happroaches]; rfl⟩

theorem Broken.turns (h : Broken r op off id sid c) :
    c.turns id sid = c.rankOf sid + min 2 (c.rankOf id) ∧ c.turnOf id sid = if c.rankOf id = 0 then sid else id := by
  obtain ⟨call, ht, hfalls⟩ := h.canceller
  have happroaches : c.approaches sid = false := (approaches_eq ht).trans hfalls.not_approaching
  exact ⟨by rw [Conversation.turns, happroaches]; rfl, by simp [turnOf, happroaches]⟩

theorem Ending.others_advance (h : Ending r op off id sid c) {i : Nat} (hi : i = id ∨ i = sid) :
    ∀ j t, j ≠ id → j ≠ sid → (c.advance {} i).threads[j]? = some t → ∃ outcome, t.call = .returned outcome := by
  intro j t hid hsid ht
  have hother : i ≠ j := by
    rcases hi with rfl | rfl
    · exact hid.symm
    · exact hsid.symm
  exact h.others j t hid hsid ((getElem?_advance_of_ne hother).symm.trans ht)

theorem Ending.advance_call (h : Ending r op off id sid c) :
    Ending r op off id sid (c.advance {} id) ∧ Nears id sid c (c.advance {} id) ∧
      (id = c.turnOf id sid → (c.advance {} id).turns id sid < c.turns id sid) := by
  have hserved : Served (c.advance {} id) := h.served.apply (e := .advance id) rfl
  have hsid : (c.advance {} id).threads[sid]? = c.threads[sid]? := getElem?_advance_of_ne h.two
  have hrankSid : (c.advance {} id).rankOf sid = c.rankOf sid := by rw [rankOf, rankOf, hsid]
  rcases h.stage with hcoming | hbroken
  · have hcoming' := hcoming.advance_call h.served h.works h.two
    obtain ⟨hturns, hturn⟩ := hcoming.turns
    obtain ⟨hturns', hturn'⟩ := hcoming'.turns
    refine ⟨⟨hserved, h.works, h.two, h.others_advance (.inl rfl), .inl hcoming'⟩, .inr ⟨?_, ?_⟩, fun hmine => ?_⟩
    · rw [hturns, hturns', hrankSid]
    · rw [hturn, hturn']
    · exact absurd (hmine.trans hturn) h.two
  · obtain ⟨hbroken', t, t', ht, ht', hrank⟩ := hbroken.advance_call h.served h.two
    obtain ⟨hturns, hturn⟩ := hbroken.turns
    refine ⟨⟨hserved, h.works, h.two, h.others_advance (.inl rfl), .inr hbroken'⟩, ?_⟩
    rcases hrank with hlt | ⟨rfl, hzero⟩
    · have hless : (c.advance {} id).turns id sid < c.turns id sid := by
        rw [hturns, hbroken'.turns.1, hrankSid, rankOf_eq ht, rankOf_eq ht']
        exact Nat.add_lt_add_left hlt _
      exact ⟨.inl hless, fun _ => hless⟩
    · refine ⟨.same (ht'.trans ht.symm) hsid, fun hmine => ?_⟩
      rw [hturn, rankOf_eq ht, if_pos hzero] at hmine
      exact absurd hmine h.two

theorem Ending.advance_canceller (h : Ending r op off id sid c)
    (hmeets : c.approaches sid = true → c.Meets r id sid) :
    Ending r op off id sid (c.advance {} sid) ∧ Nears id sid c (c.advance {} sid) ∧
      (sid = c.turnOf id sid → (c.advance {} sid).turns id sid < c.turns id sid ∨ c.turns id sid = 0) := by
  have hserved : Served (c.advance {} sid) := h.served.apply (e := .advance sid) rfl
  have hid : (c.advance {} sid).threads[id]? = c.threads[id]? := getElem?_advance_of_ne h.two.symm
  rcases h.stage with hcoming | hbroken
  · obtain ⟨call, hsid, hrises, -⟩ := hcoming.canceller
    obtain ⟨hstage, t, t', ht, ht', hlt⟩ := hcoming.advance_canceller h.served h.two
      (hmeets ((approaches_eq hsid).trans hrises.approaching))
    have hturns : (c.advance {} sid).turns id sid < c.turns id sid := by
      rw [hcoming.turns.1]
      refine Nat.lt_of_le_of_lt (turns_le _ id sid) ?_
      rw [rankOf_eq ht, rankOf_eq ht']
      exact Nat.add_lt_add_right hlt 2
    exact ⟨⟨hserved, h.works, h.two, h.others_advance (.inr rfl), hstage⟩, .inl hturns, fun _ => .inl hturns⟩
  · obtain ⟨hbroken', t, t', ht, ht', hrank⟩ := hbroken.advance_canceller h.served h.two fun j => h.other
    obtain ⟨hturns, hturn⟩ := hbroken.turns
    refine ⟨⟨hserved, h.works, h.two, h.others_advance (.inr rfl), .inr hbroken'⟩, ?_⟩
    rcases hrank with hlt | ⟨rfl, hzero⟩
    · have hless : (c.advance {} sid).turns id sid < c.turns id sid := by
        have hrankId : (c.advance {} sid).rankOf id = c.rankOf id := by rw [rankOf, rankOf, hid]
        rw [hturns, hbroken'.turns.1, hrankId, rankOf_eq ht, rankOf_eq ht']
        exact Nat.add_lt_add_right hlt _
      exact ⟨.inl hless, fun _ => .inl hless⟩
    · refine ⟨.same hid (ht'.trans ht.symm), fun hmine => .inr ?_⟩
      -- It is the canceller's turn when the call has ended, and then nothing is in its way.
      have hover : c.rankOf id = 0 := by
        by_contra hlive
        rw [hturn, if_neg hlive] at hmine
        exact h.two hmine.symm
      obtain ⟨⟨t₁, ht₁, -⟩, -⟩ := hbroken
      have hrank₁ : c.threads[id]?.map (·.call.rank) = some 0 := by
        rw [ht₁, Option.map_some, ← rankOf_eq ht₁, hover]
      rw [hturns, hover, rankOf_eq ht, hzero hrank₁]
      rfl

theorem Ending.step (h : Ending r op off id sid c) {e : Event} (he : Between id sid e)
    (hmeets : e = .advance sid → c.approaches sid = true → c.Meets r id sid) :
    Ending r op off id sid (c.apply {} e) ∧ Nears id sid c (c.apply {} e) ∧
      (e = .advance (c.turnOf id sid) → (c.apply {} e).turns id sid < c.turns id sid ∨ c.turns id sid = 0) := by
  rcases he with he | rfl | rfl
  · have hthreads := apply_network_threads he {} c
    refine ⟨h.network he, .same (by rw [hthreads]) (by rw [hthreads]), fun hturn => ?_⟩
    rw [hturn] at he
    cases he
  · obtain ⟨hending, hnears, hturn⟩ := h.advance_call
    exact ⟨hending, hnears, fun hmine => .inl (hturn (Event.advance.inj hmine))⟩
  · obtain ⟨hending, hnears, hturn⟩ := h.advance_canceller (hmeets rfl)
    exact ⟨hending, hnears, fun hmine => hturn (Event.advance.inj hmine)⟩

theorem Ending.run {es : List Event} (h : Ending r op off id sid c) (hes : ∀ e ∈ es, Between id sid e)
    (hmeets : MeetsAll r id sid c es) :
    Ending r op off id sid (es.foldl (apply {}) c) ∧ Nears id sid c (es.foldl (apply {}) c) ∧
      (.advance (c.turnOf id sid) ∈ es →
        (es.foldl (apply {}) c).turns id sid < c.turns id sid ∨ c.turns id sid = 0) := by
  induction es generalizing c with
  | nil => exact ⟨h, .inr ⟨rfl, rfl⟩, fun hmem => by cases hmem⟩
  | cons e es ih =>
    obtain ⟨he, hes⟩ := List.forall_mem_cons.1 hes
    obtain ⟨hending, hnears, hmine⟩ := h.step he hmeets.1
    obtain ⟨hending', hnears', hmine'⟩ := ih hending hes hmeets.2
    have hle : (es.foldl (apply {}) (c.apply {} e)).turns id sid ≤ (c.apply {} e).turns id sid := by
      rcases hnears' with hlt | ⟨heq, -⟩
      · exact Nat.le_of_lt hlt
      · exact Nat.le_of_eq heq
    rw [List.foldl_cons]
    rcases hnears with hlt | ⟨hturns, hturn⟩
    · have hless := Nat.lt_of_le_of_lt hle hlt
      exact ⟨hending', .inl hless, fun _ => .inl hless⟩
    · rw [hturns, hturn] at hmine'
      refine ⟨hending', ?_, fun hmem => ?_⟩
      · rwa [Nears, hturns, hturn] at hnears'
      · rcases List.mem_cons.1 hmem with heq | hmem
        · refine (hmine heq.symm).imp_left fun hlt => ?_
          exact absurd (hturns ▸ hlt) (Nat.lt_irrefl _)
        · exact hmine' hmem

theorem MeetsAll.append {es es' : List Event} :
    MeetsAll r id sid c (es ++ es') ↔ MeetsAll r id sid c es ∧ MeetsAll r id sid (es.foldl (apply {}) c) es' := by
  induction es generalizing c with
  | nil => exact (and_iff_right trivial).symm
  | cons e es ih =>
    rw [List.cons_append, MeetsAll, MeetsAll, ih, and_assoc]
    rfl

/-- Every round brings the two nearer to their end. -/
theorem Ending.rounds {rounds : List (List Event)} (h : Ending r op off id sid c)
    (hrounds : ∀ es ∈ rounds, Round id sid es) (hmeets : MeetsAll r id sid c rounds.flatten) :
    Ending r op off id sid (rounds.flatten.foldl (apply {}) c) ∧
      (rounds.flatten.foldl (apply {}) c).turns id sid ≤ c.turns id sid - rounds.length := by
  induction rounds generalizing c with
  | nil => exact ⟨h, Nat.le_refl _⟩
  | cons es rounds ih =>
    obtain ⟨hround, hrounds⟩ := List.forall_mem_cons.1 hrounds
    rw [List.flatten_cons] at hmeets ⊢
    obtain ⟨hfirst, hrest⟩ := MeetsAll.append.1 hmeets
    obtain ⟨hending, hnears, hmine⟩ := h.run hround.between hfirst
    obtain ⟨hending', hle⟩ := ih hending hrounds hrest
    have hturn : .advance (c.turnOf id sid) ∈ es := by
      unfold turnOf
      split
      · exact hround.canceller
      · exact hround.call
    rw [List.foldl_append]
    refine ⟨hending', ?_⟩
    rcases hmine hturn with hlt | hzero
    · rw [List.length_cons]
      omega
    · rcases hnears with hlt | ⟨heq, -⟩ <;> omega

/-- The calls that cancel what another one waits for: how they end, and the switch in front of them and behind. -/
inductive Cancels : Operation → Outcome → Bool → Bool → Prop
  | disconnect {on : Bool} : Cancels .disconnect (.disconnect .success) on on
  | shutdown : Cancels .shutdown .done true false

def welcomed : Conversation := awaitingActivation.apply {} (.arrive 0 (.bytes welcome.toBytes))

theorem welcomed_eq : welcomed =
    { awaitingActivation with connections := [{ asking with stream := some (askingStream [welcome]) }] } :=
  awaitingActivation_welcomed

end Doip.Conversation
