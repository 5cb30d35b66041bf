import Mathlib.Tactic.Common
import Doip.Config.Load

/-! When settings are accepted, and what is said about others. `Usable` says which settings can be used, and
`BreaksFirst` which rule is broken first: that of discovery, then those of the conversations, then that of the servers,
each list from its front. Both lists are gone through with what has been seen before (`firstFault`), so that the place
where a loop stops divides the list (`firstFault_eq_some_iff`). Validation comes to exactly that (`validate_exact`). -/

namespace Doip

/-! Going through a list with the keys of the items before. -/

section FirstFault

variable {α κ ν : Type}

def firstFault (key : α → κ) (check : List κ → α → Option ν) : List κ → List α → Option ν
  | _, [] => none
  | seen, x :: xs => (check seen x).or (firstFault key check (key x :: seen) xs)

variable {key : α → κ} {check : List κ → α → Option ν} {seen : List κ} {xs : List α} {v : ν}

theorem firstFault_append_eq_some_iff
    (hcheck : ∀ seen seen' x, (∀ k, k ∈ seen ↔ k ∈ seen') → check seen x = check seen' x) :
    firstFault key check seen xs = some v ↔
      ∃ before x after, xs = before ++ x :: after ∧ firstFault key check seen before = none ∧
        check (before.map key ++ seen) x = some v := by
  induction xs generalizing seen with
  | nil => simp [firstFault]
  | cons x xs ih =>
    rw [firstFault, Option.or_eq_some_iff, ih]
    -- the keys are seen from the last to the first, which the check does not notice
    have hkeys (before : List α) (y : α) :
        check ((x :: before).map key ++ seen) y = check (before.map key ++ key x :: seen) y :=
      hcheck _ _ y fun k => by simp only [List.map_cons, List.cons_append, List.mem_append, List.mem_cons]; tauto
    constructor
    · rintro (hx | ⟨hx, before, y, after, rfl, hbefore, hy⟩)
      · exact ⟨[], x, xs, rfl, rfl, hx⟩
      · exact ⟨x :: before, y, after, rfl, by rw [firstFault, hx, hbefore]; rfl, (hkeys before y).trans hy⟩
    · rintro ⟨_ | ⟨z, before⟩, y, after, hsplit, hbefore, hy⟩
      · obtain ⟨rfl, rfl⟩ := List.cons.inj hsplit
        exact .inl hy
      · obtain ⟨rfl, rfl⟩ := List.cons.inj hsplit
        obtain ⟨hx, hbefore⟩ := Option.or_eq_none_iff.1 hbefore
        exact .inr ⟨hx, before, y, after, rfl, hbefore, (hkeys before y).symm.trans hy⟩

/-- Where there is a fault, the items before have none. -/
theorem firstFault_eq_some_iff
    (hcheck : ∀ seen seen' x, (∀ k, k ∈ seen ↔ k ∈ seen') → check seen x = check seen' x) :
    firstFault key check [] xs = some v ↔
      ∃ before x after, xs = before ++ x :: after ∧ firstFault key check [] before = none ∧
        check (before.map key) x = some v := by
  simp only [firstFault_append_eq_some_iff hcheck, List.append_nil]

theorem firstFault_eq_none_iff {P : α → Prop} (hcheck : ∀ seen x, check seen x = none ↔ key x ∉ seen ∧ P x) :
    firstFault key check seen xs = none ↔
      (∀ x ∈ xs, P x) ∧ (xs.map key).Nodup ∧ ∀ x ∈ xs, key x ∉ seen := by
  induction xs generalizing seen with
  | nil => simp [firstFault]
  | cons x xs ih =>
    have hkeys : (∀ y ∈ xs, key y ∉ key x :: seen) ↔ (∀ y ∈ xs, key y ≠ key x) ∧ ∀ y ∈ xs, key y ∉ seen := by
      simp only [List.mem_cons, not_or, forall₂_and]
    simp only [firstFault, Option.or_eq_none_iff, hcheck, ih, hkeys, List.forall_mem_cons, List.map_cons,
      List.nodup_cons, List.mem_map, not_exists, not_and]
    constructor
    · rintro ⟨⟨hx, hP⟩, hall, hdistinct, hother, hseen⟩
      exact ⟨⟨hP, hall⟩, ⟨hother, hdistinct⟩, hx, hseen⟩
    · rintro ⟨⟨hP, hall⟩, ⟨hother, hdistinct⟩, hx, hseen⟩
      exact ⟨⟨hx, hP⟩, hall, hdistinct, hother, hseen⟩

end FirstFault

/-! One conversation. -/

namespace ConversationSettings

def Named (c : ConversationSettings) : Prop := ∃ ch ∈ c.name.toList, Blank.isBlank ch = false

/-- No timeout is zero. -/
structure Timed (c : ConversationSettings) : Prop where
  connect : c.connectTimeout ≠ 0
  activation : c.activationTimeout ≠ 0
  ack : c.ackTimeout ≠ 0
  response : c.responseTimeout ≠ 0

/-- The field of the first timeout that is zero. -/
inductive Hasty (c : ConversationSettings) : String → Prop
  | connect (h : c.connectTimeout = 0) : Hasty c "connect_timeout_ms"
  | activation (hconnect : c.connectTimeout ≠ 0) (h : c.activationTimeout = 0) : Hasty c "activation_timeout_ms"
  | ack (hconnect : c.connectTimeout ≠ 0) (hactivation : c.activationTimeout ≠ 0) (h : c.ackTimeout = 0) :
      Hasty c "ack_timeout_ms"
  | response (hconnect : c.connectTimeout ≠ 0) (hactivation : c.activationTimeout ≠ 0) (hack : c.ackTimeout ≠ 0)
      (h : c.responseTimeout = 0) : Hasty c "response_timeout_ms"

/-- The first rule that a conversation breaks behind others with the given names. -/
inductive Breaks (names : List String) (c : ConversationSettings) : Violation → Prop
  | blank (hname : ¬c.Named) : Breaks names c .blankName
  | duplicate (hname : c.Named) (h : c.name ∈ names) : Breaks names c (.duplicateName c.name)
  | hasty {field : String} (hname : c.Named) (hnew : c.name ∉ names) (h : c.Hasty field) :
      Breaks names c (.zeroTimeout c.name field)

variable {c : ConversationSettings} {names names' : List String} {field : String} {v : Violation}

theorem all_isBlank_iff : c.name.toList.all Blank.isBlank = true ↔ ¬c.Named := by
  simp [Named]

theorem find?_timeouts_eq_none_iff : c.timeouts.find? (·.2 = 0) = none ↔ c.Timed := by
  simp only [timeouts, List.find?_eq_none, List.forall_mem_cons, decide_eq_true_eq]
  exact ⟨fun ⟨h₁, h₂, h₃, h₄, _⟩ => ⟨h₁, h₂, h₃, h₄⟩, fun h => ⟨h.connect, h.activation, h.ack, h.response, nofun⟩⟩

theorem timed_or_hasty (c : ConversationSettings) : c.Timed ∨ ∃ field, c.Hasty field := by
  by_cases hconnect : c.connectTimeout = 0
  · exact .inr ⟨_, .connect hconnect⟩
  by_cases hactivation : c.activationTimeout = 0
  · exact .inr ⟨_, .activation hconnect hactivation⟩
  by_cases hack : c.ackTimeout = 0
  · exact .inr ⟨_, .ack hconnect hactivation hack⟩
  by_cases hresponse : c.responseTimeout = 0
  · exact .inr ⟨_, .response hconnect hactivation hack hresponse⟩
  · exact .inl ⟨hconnect, hactivation, hack, hresponse⟩

theorem Hasty.find? (h : c.Hasty field) : c.timeouts.find? (·.2 = 0) = some (field, 0) := by
  cases h with
  | connect h => simp [timeouts, h]
  | activation hconnect h => simp [timeouts, hconnect, h]
  | ack hconnect hactivation h => simp [timeouts, hconnect, hactivation, h]
  | response hconnect hactivation hack h => simp [timeouts, hconnect, hactivation, hack, h]

theorem hasty_of_find? {t : UInt64} (h : c.timeouts.find? (·.2 = 0) = some (field, t)) : c.Hasty field := by
  rcases c.timed_or_hasty with htimed | ⟨field', hhasty⟩
  · rw [find?_timeouts_eq_none_iff.2 htimed] at h
    cases h
  · obtain ⟨rfl, -⟩ := Prod.mk.inj (Option.some.inj (hhasty.find?.symm.trans h))
    exact hhasty

theorem violation?_eq_some_iff : c.violation? names = some v ↔ c.Breaks names v := by
  unfold violation?
  constructor
  · intro h
    split_ifs at h with hblank hseen
    · cases h
      exact .blank (all_isBlank_iff.1 hblank)
    · cases h
      exact .duplicate (not_not.1 (mt all_isBlank_iff.2 hblank)) hseen
    · obtain ⟨⟨field, t⟩, hfind, rfl⟩ := Option.map_eq_some_iff.1 h
      exact .hasty (not_not.1 (mt all_isBlank_iff.2 hblank)) hseen (hasty_of_find? hfind)
  · intro h
    cases h with
    | blank hname => rw [if_pos (all_isBlank_iff.2 hname)]
    | duplicate hname h => rw [if_neg (mt all_isBlank_iff.1 (not_not.2 hname)), if_pos h]
    | hasty hname hnew h =>
      rw [if_neg (mt all_isBlank_iff.1 (not_not.2 hname)), if_neg hnew, h.find?]
      rfl

theorem violation?_eq_none_iff (names : List String) (c : ConversationSettings) :
    c.violation? names = none ↔ c.name ∉ names ∧ c.Named ∧ c.Timed := by
  unfold violation?
  split_ifs with hblank hseen
  · simp [all_isBlank_iff.1 hblank]
  · simp [hseen]
  · rw [Option.map_eq_none_iff, find?_timeouts_eq_none_iff]
    simp [hseen, not_not.1 (mt all_isBlank_iff.2 hblank)]

theorem violation?_congr (h : ∀ name, name ∈ names ↔ name ∈ names') : c.violation? names = c.violation? names' := by
  simp only [violation?, h]

end ConversationSettings

/-! All of the settings. -/

namespace Config

/-- The conversations have names of their own and times to wait. -/
structure ConversationsUsable (cs : List ConversationSettings) : Prop where
  named : ∀ c ∈ cs, c.Named
  distinct : (cs.map (·.name)).Nodup
  timed : ∀ c ∈ cs, c.Timed

structure Usable (c : Config) : Prop where
  discovery : c.discovery.timeout ≠ 0
  conversations : ConversationsUsable c.conversations
  servers : (c.servers.map (·.logicalAddress)).Nodup

/-- The rule that is broken first. What comes before the item that breaks it can be used. -/
inductive BreaksFirst (c : Config) : Violation → Prop
  | discovery (h : c.discovery.timeout = 0) : BreaksFirst c .zeroDiscoveryTimeout
  | conversation {v : Violation} {before after : List ConversationSettings} {s : ConversationSettings}
      (hdiscovery : c.discovery.timeout ≠ 0) (hsplit : c.conversations = before ++ s :: after)
      (hbefore : ConversationsUsable before) (h : s.Breaks (before.map (·.name)) v) : BreaksFirst c v
  | server {before after : List ServerMapping} {s : ServerMapping} (hdiscovery : c.discovery.timeout ≠ 0)
      (hconversations : ConversationsUsable c.conversations) (hsplit : c.servers = before ++ s :: after)
      (hbefore : (before.map (·.logicalAddress)).Nodup) (h : s.logicalAddress ∈ before.map (·.logicalAddress)) :
      BreaksFirst c (.duplicateServer s.logicalAddress)

variable {c : Config} {cs : List ConversationSettings} {ss : List ServerMapping} {v v' : Violation}

theorem conversationViolation?_eq (names : List String) (cs : List ConversationSettings) :
    conversationViolation? names cs = firstFault (·.name) (fun names s => s.violation? names) names cs := by
  induction cs generalizing names with
  | nil => rfl
  | cons s cs ih => rw [conversationViolation?, firstFault, ih]

def serverFault? (addresses : List Address) (s : ServerMapping) : Option Violation :=
  if s.logicalAddress ∈ addresses then some (.duplicateServer s.logicalAddress) else none

theorem serverViolation?_eq (addresses : List Address) (ss : List ServerMapping) :
    serverViolation? addresses ss = firstFault (·.logicalAddress) serverFault? addresses ss := by
  induction ss generalizing addresses with
  | nil => rfl
  | cons s ss ih =>
    rw [serverViolation?, firstFault, ih, serverFault?]
    split <;> rfl

theorem conversationViolation?_eq_none_iff : conversationViolation? [] cs = none ↔ ConversationsUsable cs := by
  rw [conversationViolation?_eq, firstFault_eq_none_iff ConversationSettings.violation?_eq_none_iff]
  constructor
  · rintro ⟨hall, hdistinct, -⟩
    exact ⟨fun s hs => (hall s hs).1, hdistinct, fun s hs => (hall s hs).2⟩
  · intro h
    exact ⟨fun s hs => ⟨h.named s hs, h.timed s hs⟩, h.distinct, fun _ _ => List.not_mem_nil⟩

theorem conversationViolation?_eq_some_iff :
    conversationViolation? [] cs = some v ↔
      ∃ before s after, cs = before ++ s :: after ∧ ConversationsUsable before ∧ s.Breaks (before.map (·.name)) v := by
  rw [conversationViolation?_eq, firstFault_eq_some_iff fun _ _ s h => s.violation?_congr h]
  simp only [← conversationViolation?_eq, conversationViolation?_eq_none_iff,
    ConversationSettings.violation?_eq_some_iff]

theorem serverViolation?_eq_none_iff :
    serverViolation? [] ss = none ↔ (ss.map (·.logicalAddress)).Nodup := by
  have hfault (addresses : List Address) (s : ServerMapping) :
      serverFault? addresses s = none ↔ s.logicalAddress ∉ addresses ∧ True := by simp [serverFault?]
  rw [serverViolation?_eq, firstFault_eq_none_iff hfault]
  simp

theorem serverViolation?_eq_some_iff :
    serverViolation? [] ss = some v ↔
      ∃ before s after, ss = before ++ s :: after ∧ (before.map (·.logicalAddress)).Nodup ∧
        s.logicalAddress ∈ before.map (·.logicalAddress) ∧ v = .duplicateServer s.logicalAddress := by
  have hsame : ∀ (addresses addresses' : List Address) (s : ServerMapping),
      (∀ a, a ∈ addresses ↔ a ∈ addresses') → serverFault? addresses s = serverFault? addresses' s :=
    fun _ _ s h => by simp only [serverFault?, h]
  have hfault (addresses : List Address) (s : ServerMapping) :
      serverFault? addresses s = some v ↔ s.logicalAddress ∈ addresses ∧ v = .duplicateServer s.logicalAddress := by
    simp [serverFault?, eq_comm]
  rw [serverViolation?_eq, firstFault_eq_some_iff hsame]
  simp only [← serverViolation?_eq, serverViolation?_eq_none_iff, hfault]

theorem violation?_eq_none_iff : c.violation? = none ↔ c.Usable := by
  unfold violation?
  split_ifs with hdiscovery
  · exact ⟨nofun, fun h => absurd hdiscovery h.discovery⟩
  · rw [Option.or_eq_none_iff, conversationViolation?_eq_none_iff, serverViolation?_eq_none_iff]
    exact ⟨fun ⟨hconversations, hservers⟩ => ⟨hdiscovery, hconversations, hservers⟩,
      fun h => ⟨h.conversations, h.servers⟩⟩

theorem violation?_eq_some_iff : c.violation? = some v ↔ c.BreaksFirst v := by
  unfold violation?
  constructor
  · intro h
    split_ifs at h with hdiscovery
    · cases h
      exact .discovery hdiscovery
    · rcases Option.or_eq_some_iff.1 h with hconversation | ⟨hnone, hserver⟩
      · obtain ⟨before, s, after, hsplit, hbefore, hs⟩ := conversationViolation?_eq_some_iff.1 hconversation
        exact .conversation hdiscovery hsplit hbefore hs
      · obtain ⟨before, s, after, hsplit, hbefore, hs, rfl⟩ := serverViolation?_eq_some_iff.1 hserver
        exact .server hdiscovery (conversationViolation?_eq_none_iff.1 hnone) hsplit hbefore hs
  · intro h
    cases h with
    | discovery h => rw [if_pos h]
    | conversation hdiscovery hsplit hbefore h =>
      rw [if_neg hdiscovery, conversationViolation?_eq_some_iff.2 ⟨_, _, _, hsplit, hbefore, h⟩, Option.some_or]
    | server hdiscovery hconversations hsplit hbefore h =>
      rw [if_neg hdiscovery, conversationViolation?_eq_none_iff.2 hconversations,
        serverViolation?_eq_some_iff.2 ⟨_, _, _, hsplit, hbefore, h, rfl⟩, Option.none_or]

/-- Settings are accepted exactly when they can be used, and of others the rule that is broken first is named. There is
only one such rule. -/
theorem validate_exact (c : Config) :
    (c.validate = .ok () ↔ c.Usable) ∧
      (∀ e, c.validate = .error e ↔ ∃ v, c.BreaksFirst v ∧ e = .invalid v.message) ∧
      (¬c.Usable → ∃! v, c.BreaksFirst v) := by
  simp only [← violation?_eq_none_iff, ← violation?_eq_some_iff]
  unfold validate
  cases h : c.violation? with
  | none => simp
  | some v => simp [eq_comm]

example :
    let c : Config := {
      conversations := [{ name := "a", source := 1 }, { name := "a", source := 2, connectTimeout := 0 }]
      servers := [⟨1, .localhost, 0⟩, ⟨1, .localhost, 0⟩] }
    c.violation? = some (.duplicateName "a") := by
  decide

end Config
end Doip
