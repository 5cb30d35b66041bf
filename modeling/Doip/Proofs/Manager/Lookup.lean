import Mathlib.Data.List.Nodup
import Doip.Proofs.Config.Validation
import Doip.Proofs.Conversation.Endpoint
import Doip.Proofs.Conversation.Severed
import Doip.Proofs.Manager.Run

/-! What a manager finds under names and addresses. In its table an entry replaces those before it that have the same
name (`Table.lookup_foldl_insert`), while the settings are searched for the first match. Both find the same, for the
names of usable settings are distinct. What is found, and where its connects go, stays as the settings have it whatever
happens to a manager that runs (`lookups_agree`). -/

namespace Doip

/-- The endpoint of a target for the tester with the given settings. -/
def Config.endpoint? (config : Config) (tester : ConversationSettings) (target : Address) (host : Option IpAddress) :
    Option Endpoint :=
  match config.server? target with
  | some server => some ⟨host.getD server.host, server.port⟩
  | none => host.map (⟨·, tester.tcpPort⟩)

theorem find?_eq_some_iff_of_nodup {α β : Type} [DecidableEq β] {l : List α} {f : α → β} (h : (l.map f).Nodup) {a : α}
    {b : β} : l.find? (f · = b) = some a ↔ a ∈ l ∧ f a = b := by
  induction l with
  | nil => exact ⟨nofun, fun h => absurd h.1 List.not_mem_nil⟩
  | cons x l ih =>
    rw [List.map_cons, List.nodup_cons] at h
    rw [List.mem_cons]
    by_cases hx : f x = b
    · simp only [List.find?_cons, hx, decide_true]
      constructor
      · rintro ⟨⟩
        exact ⟨.inl rfl, hx⟩
      · rintro ⟨rfl | hmem, hb⟩
        · rfl
        · exact absurd (hx.trans hb.symm ▸ List.mem_map_of_mem hmem) h.1
    · simp only [List.find?_cons, hx, decide_false, ih h.2]
      refine and_congr_left fun hb => (or_iff_right ?_).symm
      rintro rfl
      exact hx hb

namespace Manager

variable {table : Table} {entries : List (String × Nat)} {name : String} {i : Nat}

/-! Tables. -/

theorem lookup_filter_of_ne {key : String} (h : name ≠ key) (table : Table) :
    (table.filter (·.1 ≠ key)).lookup name = table.lookup name := by
  induction table with
  | nil => rfl
  | cons entry table ih =>
    obtain ⟨key', i⟩ := entry
    by_cases hkey : key' = key
    · have hname : (name == key') = false := beq_eq_false_iff_ne.2 (hkey ▸ h)
      rw [List.filter_cons_of_neg (by simp [hkey]), List.lookup_cons, hname, ih]
    · rw [List.filter_cons_of_pos (by simp [hkey]), List.lookup_cons, List.lookup_cons, ih]

theorem Table.lookup_insert (table : Table) (entry : String × Nat) (name : String) :
    (table.insert entry).lookup name = if name = entry.1 then some entry.2 else table.lookup name := by
  obtain ⟨key, i⟩ := entry
  rw [Table.insert, List.lookup_cons]
  by_cases h : name = key
  · rw [if_pos h, beq_iff_eq.2 h]
  · rw [if_neg h, beq_eq_false_iff_ne.2 h]
    exact lookup_filter_of_ne h table

/-- Of several entries with the same name the last one counts. -/
theorem Table.lookup_foldl_insert (entries : List (String × Nat)) (table : Table) (name : String) :
    (entries.foldl Table.insert table).lookup name = (entries.reverse.lookup name).or (table.lookup name) := by
  induction entries generalizing table with
  | nil => rfl
  | cons entry entries ih =>
    obtain ⟨key, i⟩ := entry
    rw [List.foldl_cons, ih, Table.lookup_insert, List.reverse_cons, List.lookup_append, Option.or_assoc]
    by_cases h : name = key
    · rw [if_pos h, List.lookup_cons, beq_iff_eq.2 h, Option.some_or]
    · rw [if_neg h, List.lookup_cons, beq_eq_false_iff_ne.2 h, List.lookup_nil, Option.none_or]

theorem Table.length_foldl_insert (hnames : (entries.map Prod.fst).Nodup)
    (hfresh : ∀ entry ∈ entries, ∀ old ∈ table, old.1 ≠ entry.1) :
    (entries.foldl Table.insert table).length = table.length + entries.length := by
  induction entries generalizing table with
  | nil => rfl
  | cons entry entries ih =>
    rw [List.map_cons, List.nodup_cons] at hnames
    have hkept : table.insert entry = entry :: table := by
      refine congrArg (entry :: ·) (List.filter_eq_self.2 fun old hold => decide_eq_true ?_)
      exact hfresh entry List.mem_cons_self old hold
    have hfresh' : ∀ later ∈ entries, ∀ old ∈ entry :: table, old.1 ≠ later.1 := by
      intro later hlater
      refine List.forall_mem_cons.2 ⟨fun hsame => hnames.1 (hsame ▸ List.mem_map_of_mem hlater), ?_⟩
      exact hfresh later (List.mem_cons_of_mem entry hlater)
    rw [List.foldl_cons, hkept, ih hnames.2 hfresh', List.length_cons, List.length_cons]
    omega

theorem lookup_eq_find? (entries : List (String × Nat)) (name : String) :
    entries.lookup name = (entries.find? (·.1 = name)).map Prod.snd := by
  induction entries with
  | nil => rfl
  | cons entry entries ih =>
    obtain ⟨key, i⟩ := entry
    by_cases h : key = name
    · simp [h]
    · simp [List.lookup_cons, beq_eq_false_iff_ne.2 (Ne.symm h), h, ih]

theorem lookup_eq_some_iff_mem (h : (entries.map Prod.fst).Nodup) :
    entries.lookup name = some i ↔ (name, i) ∈ entries := by
  rw [lookup_eq_find?, Option.map_eq_some_iff]
  simp only [find?_eq_some_iff_of_nodup h]
  constructor
  · rintro ⟨entry, ⟨hmem, rfl⟩, rfl⟩
    exact hmem
  · exact fun hmem => ⟨(name, i), ⟨hmem, rfl⟩, rfl⟩

variable {m : Manager} {config : Config} {c : Conversation}

/-- No two testers have the same name. -/
def Distinct (m : Manager) : Prop := (m.conversations.map (·.settings.name)).Nodup

theorem map_fst_entries (cs : List Conversation) :
    (cs.mapIdx fun i c => (c.settings.name, i)).map Prod.fst = cs.map (·.settings.name) := by
  refine List.ext_getElem? fun i => ?_
  simp only [List.getElem?_map, List.getElem?_mapIdx]
  cases cs[i]? <;> rfl

theorem Distinct.length_table (h : m.Distinct) : m.table.length = m.conversations.length := by
  have hnames : ((m.conversations.mapIdx fun i c => (c.settings.name, i)).map Prod.fst).Nodup := by
    rw [map_fst_entries]
    exact h
  rw [table, Table.length_foldl_insert hnames fun _ _ _ hold => absurd hold List.not_mem_nil, List.length_nil,
    List.length_mapIdx, Nat.zero_add]

theorem Distinct.lookup_table (h : m.Distinct) :
    m.table.lookup name = some i ↔ ∃ c, m.conversations[i]? = some c ∧ c.settings.name = name := by
  have hnames : ((m.conversations.mapIdx fun i c => (c.settings.name, i)).reverse.map Prod.fst).Nodup := by
    rw [List.map_reverse, List.nodup_reverse, map_fst_entries]
    exact h
  rw [table, Table.lookup_foldl_insert, List.lookup_nil, Option.or_none, lookup_eq_some_iff_mem hnames,
    List.mem_reverse, List.mem_iff_getElem?]
  simp only [List.getElem?_mapIdx, Option.map_eq_some_iff, Prod.mk.injEq]
  constructor
  · rintro ⟨j, c, hc, hname, rfl⟩
    exact ⟨c, hc, hname⟩
  · rintro ⟨c, hc, hname⟩
    exact ⟨i, c, hc, hname, rfl⟩

theorem conversation_eq_ok_iff (hrunning : m.lifecycle = .running) :
    m.conversation name = .ok i ↔ m.table.lookup name = some i := by
  simp only [conversation, hrunning]
  cases m.table.lookup name <;> simp

theorem conversation_eq_error (hrunning : m.lifecycle = .running) (h : ∀ i, m.conversation name ≠ .ok i) :
    m.conversation name = .error (.config (.conversationNotFound name)) := by
  simp only [conversation, hrunning] at h ⊢
  cases hlookup : m.table.lookup name with
  | none => rfl
  | some i => exact absurd (by simp only [hlookup]) (h i)

/-! Managers that run. -/

/-- There is one conversation for each configured tester, with its settings and the configured servers, and connects go
to the endpoints of their targets. -/
structure Founded (config : Config) (m : Manager) : Prop where
  basis : m.conversations.map Conversation.basis = config.conversations.map (·, config.servers)
  directed : ∀ c ∈ m.conversations, c.Directed

/-- A manager with these settings, whatever has become of it. -/
structure Holds (config : Config) (m : Manager) : Prop where
  settings : m.config = config
  founded : m.lifecycle = .running → Founded config m

theorem Founded.settings (h : Founded config m) : m.conversations.map (·.settings) = config.conversations := by
  have hsettings := congrArg (List.map Prod.fst) h.basis
  rw [List.map_map, List.map_map] at hsettings
  exact hsettings.trans (List.map_id _)

theorem Founded.servers (h : Founded config m) (hc : c ∈ m.conversations) : c.servers = config.servers := by
  have hmem : c.basis ∈ config.conversations.map (·, config.servers) := h.basis ▸ List.mem_map_of_mem hc
  obtain ⟨s, -, hs⟩ := List.mem_map.1 hmem
  exact (Prod.mk.inj hs).2.symm

theorem Founded.resolve (h : Founded config m) (hc : c ∈ m.conversations) :
    c.resolve = config.endpoint? c.settings := by
  funext target host
  rw [Config.endpoint?, Config.server?, ← h.servers hc]
  unfold Conversation.resolve
  cases host <;> cases c.servers.find? (·.logicalAddress = target) <;> rfl

theorem Founded.distinct (h : Founded config m) (hconfig : config.Usable) : m.Distinct := by
  have hnames := congrArg (List.map (·.name)) h.settings
  rw [List.map_map] at hnames
  have hdistinct := hconfig.conversations.distinct
  rwa [← hnames] at hdistinct

theorem Founded.within (h : Founded config m) (i : Nat) (e : Conversation.Event) : Founded config (m.apply i e) :=
  ⟨(map_modify_of_eq (fun c _ => Conversation.basis_apply m.worker c e) i).trans h.basis,
    forall_mem_modify h.directed (fun c hc => (h.directed c hc).apply m.worker e) i⟩

theorem Founded.elapse (h : Founded config m) (ms : Nat) : Founded config (m.step (.elapse ms)) := by
  refine ⟨?_, fun c hc => ?_⟩
  · rw [← h.basis]
    simp only [step, List.map_map]
    exact List.map_congr_left fun c _ => Conversation.basis_apply m.worker c (.elapse ms)
  · obtain ⟨c₀, hc₀, rfl⟩ := List.mem_map.1 hc
    exact (h.directed c₀ hc₀).apply m.worker (.elapse ms)

theorem Holds.launch {fault : Option String} {started : Manager} (h : Holds config m)
    (hlaunch : m.launch fault = .ok started) : Holds config started := by
  have hstart : m.start = .ok started := by
    unfold Manager.launch at hlaunch
    split at hlaunch
    · cases hlaunch
    · exact hlaunch
  unfold start at hstart
  split at hstart
  · cases hstart
  · cases hstart
  · cases hstart
    refine ⟨h.settings, fun _ => ⟨?_, fun c hc => ?_⟩⟩
    · rw [← h.settings, List.map_map]
      rfl
    · obtain ⟨s, -, rfl⟩ := List.mem_map.1 hc
      exact fun t ht => absurd ht List.not_mem_nil

theorem Holds.step (h : Holds config m) (e : Event) : Holds config (m.step e) := by
  cases e with
  | start fault =>
    simp only [Manager.step]
    split
    · exact h.launch ‹_›
    · exact h
  | stop =>
    have hoff : m.stop.lifecycle = .shutDown := by
      unfold stop
      split <;> rfl
    refine ⟨?_, fun hrunning => ?_⟩
    · simp only [Manager.step, stop]
      split <;> exact h.settings
    · cases hoff.symm.trans hrunning
  | discover network filter answers =>
    simp only [Manager.step, discover]
    split
    · exact h
    · exact ⟨h.settings, fun hrunning => ⟨(h.founded hrunning).basis, (h.founded hrunning).directed⟩⟩
  | elapse ms => exact ⟨h.settings, fun hrunning => (h.founded hrunning).elapse ms⟩
  | within i e => exact ⟨h.settings, fun hrunning => (h.founded hrunning).within i e⟩

theorem Holds.run (h : Holds config m) (es : List Event) : Holds config (m.run es) := by
  induction es generalizing m with
  | nil => exact h
  | cons e es ih => exact ih (h.step e)

theorem ofConfig_eq_ok_iff : ofConfig config = .ok m ↔ config.Usable ∧ m = { config } := by
  rw [← Config.violation?_eq_none_iff]
  unfold ofConfig Config.validate
  cases config.violation? with
  | none => exact ⟨fun h => ⟨rfl, (Except.ok.inj h).symm⟩, fun h => congrArg Except.ok h.2.symm⟩
  | some v => exact ⟨nofun, nofun⟩

/-- A manager of settings that it accepts can be started. As long as it runs, whatever happens, it has one conversation
for each configured tester, all of them in its table. A name is found exactly when the settings have a tester of that
name, and the conversation that is found has the settings of this tester; another name is reported. A target is at the
given or mapped host, with the port of the server that the settings have under its address; without a server it is at a
given host with the port of the tester, or nowhere. The connects of the conversation go there. -/
theorem lookups_agree (h : ofConfig config = .ok m) :
    (∃ started, m.start = .ok started ∧ started.lifecycle = .running) ∧
    ∀ es, (m.run es).lifecycle = .running →
      let m' := m.run es
      m'.conversations.length = config.conversations.length ∧ m'.table.length = config.conversations.length ∧
      (∀ i c, m'.conversations[i]? = some c → m'.conversation c.settings.name = .ok i) ∧
      (∀ name, (∃ i, m'.conversation name = .ok i) ↔ ∃ s, config.conversation? name = some s) ∧
      (∀ name i, m'.conversation name = .ok i →
        ∃ c, m'.conversations[i]? = some c ∧ config.conversation? name = some c.settings) ∧
      (∀ name, config.conversation? name = none →
        m'.conversation name = .error (.config (.conversationNotFound name))) ∧
      ∀ c ∈ m'.conversations, c.resolve = config.endpoint? c.settings ∧
        ∀ t ∈ c.threads, t.call.Toward (config.endpoint? c.settings) := by
  obtain ⟨husable, rfl⟩ := ofConfig_eq_ok_iff.1 h
  refine ⟨⟨_, rfl, rfl⟩, fun es hrunning => ?_⟩
  intro m'
  have hholds : Holds config { config } := ⟨rfl, nofun⟩
  have hfounded : Founded config m' := (hholds.run es).founded hrunning
  have hdistinct : m'.Distinct := hfounded.distinct husable
  have hlength : m'.conversations.length = config.conversations.length := by
    rw [← hfounded.settings, List.length_map]
  have hfound (name : String) (i : Nat) :
      m'.conversation name = .ok i ↔ ∃ c, m'.conversations[i]? = some c ∧ c.settings.name = name :=
    (conversation_eq_ok_iff hrunning).trans hdistinct.lookup_table
  have hsettings (name : String) (s : ConversationSettings) :
      config.conversation? name = some s ↔ s ∈ config.conversations ∧ s.name = name :=
    find?_eq_some_iff_of_nodup husable.conversations.distinct
  have hmem {i : Nat} {c : Conversation} (hc : m'.conversations[i]? = some c) : c.settings ∈ config.conversations :=
    hfounded.settings ▸ List.mem_map_of_mem (List.mem_of_getElem? hc)
  have hiff (name : String) : (∃ i, m'.conversation name = .ok i) ↔ ∃ s, config.conversation? name = some s := by
    constructor
    · rintro ⟨i, hi⟩
      obtain ⟨c, hc, hname⟩ := (hfound name i).1 hi
      exact ⟨c.settings, (hsettings name c.settings).2 ⟨hmem hc, hname⟩⟩
    · rintro ⟨s, hs⟩
      obtain ⟨hs, hname⟩ := (hsettings name s).1 hs
      rw [← hfounded.settings] at hs
      obtain ⟨c, hc, rfl⟩ := List.mem_map.1 hs
      obtain ⟨i, hi⟩ := List.mem_iff_getElem?.1 hc
      exact ⟨i, (hfound name i).2 ⟨c, hi, hname⟩⟩
  refine ⟨hlength, hdistinct.length_table.trans hlength, fun i c hc => (hfound _ i).2 ⟨c, hc, rfl⟩, hiff,
    fun name i hi => ?_, fun name hnone => ?_, fun c hc => ⟨hfounded.resolve hc, ?_⟩⟩
  · obtain ⟨c, hc, hname⟩ := (hfound name i).1 hi
    exact ⟨c, hc, (hsettings name c.settings).2 ⟨hmem hc, hname⟩⟩
  · refine conversation_eq_error hrunning fun i hi => ?_
    obtain ⟨s, hs⟩ := (hiff name).1 ⟨i, hi⟩
    cases hnone.symm.trans hs
  · rw [← hfounded.resolve hc]
    exact hfounded.directed c hc

/-- While the first of two testers connects, the second is found with its source address, and a third is not. The server
is reached at its own host or at another one; one that the settings do not have is not reached. -/
theorem second_tester_found :
    let m := twoTesters.run (.start none :: connecting 0 1)
    let elsewhere : IpAddress := .v4 ⟨10, 0, 0, 1⟩
    m.table.length = 2 ∧ m.conversation "three" = .error (.config (.conversationNotFound "three")) ∧
      ∃ i c, m.conversation "two" = .ok i ∧ m.conversations[i]? = some c ∧ c.settings.source = 2 ∧
        c.resolve 0xFA25 none = some ⟨.localhost, 13400⟩ ∧
        c.resolve 0xFA25 (some elsewhere) = some ⟨elsewhere, 13400⟩ ∧ c.resolve 0xFA26 none = none := by
  intro m elsewhere
  have haccepted : ofConfig twoTesters.config = .ok twoTesters := rfl
  obtain ⟨-, hrun⟩ := lookups_agree haccepted
  obtain ⟨-, htable, -, hiff, hfound, hnone, hendpoint⟩ := hrun (.start none :: connecting 0 1) rfl
  obtain ⟨i, hi⟩ := (hiff "two").2 ⟨_, rfl⟩
  obtain ⟨c, hc, hsettings⟩ := hfound "two" i hi
  have hsource : c.settings.source = 2 := congrArg ConversationSettings.source (Option.some.inj hsettings).symm
  have hresolve := (hendpoint c (List.mem_of_getElem? hc)).1
  refine ⟨htable, hnone "three" rfl, i, c, hi, hc, hsource, ?_, ?_, ?_⟩ <;> rw [hresolve] <;> rfl

end Manager
end Doip
