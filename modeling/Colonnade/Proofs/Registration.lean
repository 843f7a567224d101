import Mathlib
import Colonnade.Plugin
import Colonnade.Proofs.Runs
/-! # The registry through any history of calls

Every registering call is a list of entries registered in order until the first that fails
(`Registry.call_of_entries`), so the registry after any calls is the empty one with their changes
made (`Registry.callAll_eq`). From that, `registry_follows_its_history` describes its keys, their
order and their handlers.
-/
namespace Colonnade

open Colonnade.Text

namespace Registry

/-! ## Registrations one by one -/

/-- Whether a name can be registered: it is not blank, and its key is not a keyword of the
language. -/
def Admits (name : String) : Prop :=
  isBlankText name = false ∧ Keyword.isReserved (keyOf name) = false

instance (name : String) : Decidable (Admits name) := inferInstanceAs (Decidable (_ ∧ _))

/-- A change of a registry: a handler put under the key of a name, or a key taken out. -/
inductive Change where
  | put (name : String) (h : Handler)
  | drop (key : String)

def Change.key : Change → String
  | .put name _ => keyOf name
  | .drop key => key

def Change.isPut : Change → Bool
  | .put _ _ => true
  | .drop _ => false

def apply (r : Registry) : Change → Registry
  | .put name h => ⟨r.handlers.insert (keyOf name) h⟩
  | .drop key => r.erase key

/-- The change that registering a name with a handler makes, if it succeeds. -/
def registration? (name handler : Data) : Option Change :=
  match name, handler with
  | .text s, .handler h => if Admits s then some (.put s h) else none
  | _, _ => none

/-- The change that registering an entry of a batch makes, if it succeeds: the entry is a map
whose name, and whose handler under `handler` or else `func`, register. -/
def entryChange? (entry : Data) : Option Change :=
  match entry with
  | .map _ => registration? ((entry.field? "name").getD .null)
      ((entry.field? "handler").getD ((entry.field? "func").getD .null))
  | _ => none

theorem register_of_registration {name handler : Data} {c : Change}
    (h : registration? name handler = some c) (r : Registry) :
    r.register name handler = .ok (r.apply c) := by
  unfold registration? at h
  split at h
  · rename_i s hd
    split at h
    · rename_i hs
      cases h
      simp [register, hs.1, hs.2, apply]
    · cases h
  · cases h

theorem register_of_none {name handler : Data} (h : registration? name handler = none)
    (r : Registry) : ∃ err, r.register name handler = .error err := by
  unfold registration? at h
  unfold register
  split at h
  · rename_i s hd
    have hs : ¬ Admits s := fun hs => by simp [hs] at h
    -- a text that is not admitted is blank or has a reserved key
    by_cases hb : isBlankText s = true
    · exact ⟨.nameNotText, by simp [hb]⟩
    · have hr : Keyword.isReserved (keyOf s) = true := by
        simpa [Admits, hb] using hs
      exact ⟨.reserved (keyOf s), by simp [hb, hr]⟩
  · rename_i hnot
    split
    · split
      · exact ⟨_, rfl⟩
      · split
        · exact (hnot _ _ rfl rfl).elim
        · exact ⟨_, rfl⟩
    · exact ⟨_, rfl⟩

/-- A change that a registration makes puts a handler under an admitted name. -/
theorem registration?_put {name handler : Data} {c : Change}
    (h : registration? name handler = some c) : ∃ s hd, c = .put s hd ∧ Admits s := by
  unfold registration? at h
  split at h
  · split at h
    · cases h
      exact ⟨_, _, rfl, ‹_›⟩
    · cases h
  · cases h

theorem registerEntry_of_change {entry : Data} {c : Change} (h : entryChange? entry = some c)
    (r : Registry) : r.registerEntry entry = .ok (r.apply c) := by
  cases entry with
  | map fields => exact register_of_registration h r
  | _ => cases h

theorem registerEntry_of_none {entry : Data} (h : entryChange? entry = none) (r : Registry) :
    ∃ err, r.registerEntry entry = .error err := by
  cases entry with
  | map fields => exact register_of_none h r
  | _ => exact ⟨_, rfl⟩

/-! ## Batches -/

/-- The changes that registering entries in order makes, up to the first entry that fails. -/
def changesOf : List Data → List Change
  | [] => []
  | e :: es =>
    match entryChange? e with
    | some c => c :: changesOf es
    | none => []

/-- Registering entries in order makes their changes, up to the first that fails. -/
theorem registerEntries_fst (r : Registry) (es : List Data) :
    (r.registerEntries es).1 = (changesOf es).foldl apply r := by
  induction es generalizing r with
  | nil => rfl
  | cons e es ih =>
    cases hc : entryChange? e with
    | some c =>
      simp only [registerEntries, registerEntry_of_change hc, changesOf, hc, List.foldl_cons]
      exact ih _
    | none =>
      obtain ⟨err, herr⟩ := registerEntry_of_none hc r
      simp only [registerEntries, herr, changesOf, hc, List.foldl_nil]

/-- A batch that fails has registered exactly the entries before the one that failed, each with
success, and that entry fails on the registry they left. -/
theorem registerEntries_eq_some {r r' : Registry} {es : List Data} {err : RegistryError}
    (h : r.registerEntries es = (r', some err)) :
    ∃ pre e post, es = pre ++ e :: post ∧ r.registerEntries pre = (r', none) ∧
      r'.registerEntry e = .error err := by
  induction es generalizing r with
  | nil => cases h
  | cons e es ih =>
    unfold registerEntries at h
    split at h
    · rename_i r₁ h₁
      obtain ⟨pre, e', post, rfl, hpre, he'⟩ := ih h
      refine ⟨e :: pre, e', post, rfl, ?_, he'⟩
      simp only [registerEntries, h₁, hpre]
    · rename_i err' h₁
      obtain ⟨rfl, herr⟩ := Prod.mk.inj h
      cases herr
      exact ⟨[], e, es, rfl, rfl, h₁⟩

/-- The entry of a batch that offers a name and a handler. -/
def entry (name handler : Data) : Data := .map [(.text "name", name), (.text "handler", handler)]

theorem registerEntry_entry (r : Registry) (name handler : Data) :
    r.registerEntry (entry name handler) = r.register name handler := rfl

theorem registerAllNamed_eq (r : Registry) (named : List (String × Handler)) :
    r.registerAllNamed named =
      r.registerEntries (named.map fun e => entry (.text e.1) (.handler e.2)) := by
  induction named generalizing r with
  | nil => rfl
  | cons e rest ih =>
    obtain ⟨n, hd⟩ := e
    simp only [registerAllNamed, List.map_cons, registerEntries, registerEntry_entry]
    cases r.register (.text n) (.handler hd) with
    | ok r' => exact ih r'
    | error err => rfl

end Registry

/-! ## Calls -/

/-- The registrations that the hook of the plugin at a path asks for, when the plugin is found and
its hook registers. -/
def Plugin.hookEntries (installed : List Plugin) (path : String) :
    Option (List (String × Handler)) :=
  if path.startsWith "." then none
  else if path.isEmpty then none
  else
    match findModule installed (path.length + 1) path with
    | .ok p =>
      match p.hook with
      | .registers named => some named
      | _ => none
    | .error _ => none

/-- A plugin whose hook is found and registers is loaded by registering the hook's names. -/
theorem Registry.loadPlugin_of_hookEntries {installed : List Plugin} {path : String}
    {named : List (String × Handler)} (h : Plugin.hookEntries installed path = some named)
    (r : Registry) : r.loadPlugin installed path = r.registerAllNamed named := by
  unfold Plugin.hookEntries at h
  unfold loadPlugin
  -- a relative or empty path has no hook
  have hdot : path.startsWith "." = false := by
    cases hd : path.startsWith "."
    · rfl
    · simp [hd] at h
  have hempty : path.isEmpty = false := by
    cases he : path.isEmpty
    · rfl
    · simp [hdot, he] at h
  simp only [hdot, hempty, Bool.false_eq_true, if_false] at h ⊢
  split at h
  · rename_i p hp
    rw [hp]
    split at h
    · rename_i hhook
      cases h
      simp [hhook]
    · cases h
  · cases h

/-- A plugin without a hook that registers fails to load and leaves the registry as it was. -/
theorem Registry.loadPlugin_of_hookEntries_none {installed : List Plugin} {path : String}
    (h : Plugin.hookEntries installed path = none) (r : Registry) :
    ∃ err, r.loadPlugin installed path = (r, some err) := by
  unfold Plugin.hookEntries at h
  unfold loadPlugin
  split
  · exact ⟨_, rfl⟩
  · split
    · exact ⟨_, rfl⟩
    · rw [if_neg ‹_›, if_neg ‹_›] at h
      split
      · exact ⟨_, rfl⟩
      · rename_i p hp
        rw [hp] at h
        split
        · exact ⟨_, rfl⟩
        · exact ⟨_, rfl⟩
        · rename_i hhook
          simp [hhook] at h
        · exact ⟨_, rfl⟩

namespace Registry

/-- A call on a registry: the registration of a name with a handler, a batch of entries, either of
these through the one entry point, the loading of a plugin, or the removal of a key. -/
inductive Call where
  | register (name handler : Data)
  | registerBatch (entries : Data)
  | registerKeyword (name handler : Data)
  | loadPlugin (installed : List Plugin) (path : String)
  | remove (key : String)

/-- Makes a call, giving the registry after it and the error it failed with, if any. -/
def call (r : Registry) : Call → Registry × Option RegistryError
  | .register name handler =>
    match r.register name handler with
    | .ok r' => (r', none)
    | .error e => (r, some e)
  | .registerBatch entries => r.registerBatch entries
  | .registerKeyword name handler => r.registerKeyword name handler
  | .loadPlugin installed path => r.loadPlugin installed path
  | .remove key => (r.erase key, none)

/-- The entries that a call registers in order, if it comes to registering: none for a call that
fails before its first entry, and none for a removal. -/
def Call.entries : Call → Option (List Data)
  | .register name handler => some [entry name handler]
  | .registerBatch entries => entries.elements?
  | .registerKeyword name handler =>
    match name with
    | .text _ => some [entry name handler]
    | .list _ | .map _ => name.elements?
    | _ => none
  | .loadPlugin installed path =>
    (Plugin.hookEntries installed path).map (·.map fun e => entry (.text e.1) (.handler e.2))
  | .remove _ => none

def Call.changes : Call → List Change
  | .remove key => [.drop key]
  | .register name handler => changesOf [entry name handler]
  | .registerBatch entries => (entries.elements?.map changesOf).getD []
  | .registerKeyword name handler =>
    match name with
    | .text _ => changesOf [entry name handler]
    | .list _ | .map _ => (name.elements?.map changesOf).getD []
    | _ => []
  | .loadPlugin installed path =>
    ((Plugin.hookEntries installed path).map
      fun named => changesOf (named.map fun e => entry (.text e.1) (.handler e.2))).getD []

theorem call_register (r : Registry) (name handler : Data) :
    r.call (.register name handler) = r.registerEntries [entry name handler] := by
  cases h : r.register name handler <;> simp only [call, registerEntries, registerEntry_entry, h]

/-- A call that comes to registering registers its entries in order, up to the first that fails. -/
theorem call_of_entries {r : Registry} {c : Call} {es : List Data} (h : c.entries = some es) :
    r.call c = r.registerEntries es := by
  cases c with
  | register name handler =>
    cases h
    exact call_register r name handler
  | registerBatch entries =>
    simp only [Call.entries] at h
    simp [call, registerBatch, h]
  | registerKeyword name handler =>
    cases name <;> simp only [Call.entries, reduceCtorEq, Option.some.injEq] at h
    case text s =>
      subst h
      exact call_register r _ handler
    all_goals simp [call, registerKeyword, registerBatch, h]
  | loadPlugin installed path =>
    simp only [Call.entries, Option.map_eq_some_iff] at h
    obtain ⟨named, hnamed, rfl⟩ := h
    rw [call, loadPlugin_of_hookEntries hnamed, registerAllNamed_eq]
  | remove key => cases h

/-- A call that registers nothing fails before its first entry and leaves the registry as it was. -/
theorem call_of_entries_none {r : Registry} {c : Call} (h : c.entries = none)
    (hc : ∀ key, c ≠ .remove key) : ∃ err, r.call c = (r, some err) := by
  cases c with
  | register name handler => cases h
  | registerBatch entries =>
    simp only [Call.entries] at h
    exact ⟨.notIterable entries.sortName, by simp [call, registerBatch, h]⟩
  | registerKeyword name handler =>
    cases name <;> simp only [Call.entries, Data.elements?, reduceCtorEq] at h
    all_goals exact ⟨_, rfl⟩
  | loadPlugin installed path =>
    simp only [Call.entries, Option.map_eq_none_iff] at h
    exact loadPlugin_of_hookEntries_none h r
  | remove key => exact absurd rfl (hc key)

theorem Call.changes_of_entries {c : Call} {es : List Data} (h : c.entries = some es) :
    c.changes = changesOf es := by
  cases c with
  | register name handler => cases h; rfl
  | registerBatch entries =>
    simp only [Call.entries] at h
    simp [Call.changes, h]
  | registerKeyword name handler =>
    cases name <;> simp only [Call.entries, reduceCtorEq, Option.some.injEq] at h
    case text s => subst h; rfl
    all_goals simp [Call.changes, h]
  | loadPlugin installed path =>
    simp only [Call.entries, Option.map_eq_some_iff] at h
    obtain ⟨named, hnamed, rfl⟩ := h
    simp [Call.changes, hnamed]
  | remove key => cases h

theorem Call.changes_of_entries_none {c : Call} (h : c.entries = none)
    (hc : ∀ key, c ≠ .remove key) : c.changes = [] := by
  cases c with
  | register name handler => cases h
  | registerBatch entries =>
    simp only [Call.entries] at h
    simp [Call.changes, h]
  | registerKeyword name handler =>
    cases name <;> simp only [Call.entries, Data.elements?, reduceCtorEq] at h
    all_goals rfl
  | loadPlugin installed path =>
    simp only [Call.entries, Option.map_eq_none_iff] at h
    simp [Call.changes, h]
  | remove key => exact absurd rfl (hc key)

theorem call_fst (r : Registry) (c : Call) : (r.call c).1 = c.changes.foldl apply r := by
  by_cases hc : ∃ key, c = .remove key
  · obtain ⟨key, rfl⟩ := hc
    rfl
  · simp only [not_exists] at hc
    cases h : c.entries with
    | some es => rw [call_of_entries h, registerEntries_fst, Call.changes_of_entries h]
    | none =>
      obtain ⟨err, herr⟩ := call_of_entries_none (r := r) h hc
      rw [herr, Call.changes_of_entries_none h hc]
      rfl

/-- A call that fails leaves registered exactly the entries before the one that failed, or, when it
fails before its first entry, nothing new. -/
theorem call_eq_some {r r' : Registry} {c : Call} {err : RegistryError}
    (h : r.call c = (r', some err)) :
    (c.entries = none ∧ r' = r) ∨ ∃ pre e post, c.entries = some (pre ++ e :: post) ∧
      r.registerEntries pre = (r', none) ∧ r'.registerEntry e = .error err := by
  by_cases hc : ∃ key, c = .remove key
  · obtain ⟨key, rfl⟩ := hc
    cases h
  · simp only [not_exists] at hc
    cases hes : c.entries with
    | some es =>
      rw [call_of_entries hes] at h
      obtain ⟨pre, e, post, rfl, hpre, he⟩ := registerEntries_eq_some h
      exact .inr ⟨pre, e, post, rfl, hpre, he⟩
    | none =>
      obtain ⟨err', herr⟩ := call_of_entries_none (r := r) hes hc
      rw [herr] at h
      exact .inl ⟨rfl, (Prod.mk.inj h).1.symm⟩

/-- The registry after calls made one after another, each succeeding or failing. -/
def callAll (r : Registry) (calls : List Call) : Registry :=
  calls.foldl (fun r c => (r.call c).1) r

/-- Calls make their changes one after another. -/
theorem callAll_eq (r : Registry) (calls : List Call) :
    r.callAll calls = (calls.flatMap Call.changes).foldl apply r := by
  induction calls generalizing r with
  | nil => rfl
  | cons c calls ih =>
    rw [callAll, List.foldl_cons, ← callAll, ih, call_fst, List.flatMap_cons, List.foldl_append]


/-! ## Histories -/

/-- The handler a change registers, if it registers one. -/
def Change.handler? : Change → Option Handler
  | .put _ h => some h
  | .drop _ => none

/-- The handler that a history leaves under a key: the one that the key's last change registered,
if it registered one. -/
def lastHandler (hist : List Change) (k : String) : Option Handler :=
  (hist.reverse.find? (·.key == k)).bind Change.handler?

/-- Whether the change at position `i` of a history starts the current life of its key: it
registers the key, the key had no handler just before it, and no later change removes the key. -/
def startsLife (hist : List Change) (c : Change) (i : Nat) : Bool :=
  c.isPut && (lastHandler (hist.take i) c.key).isNone &&
    (hist.drop (i + 1)).all fun d => d.isPut || c.key != d.key

/-- The keys of a history in the order of the registrations that started their current life. -/
def liveOrder (hist : List Change) : List String :=
  hist.zipIdx.filterMap fun e => if startsLife hist e.1 e.2 then some e.1.key else none

theorem lastHandler_snoc (hist : List Change) (c : Change) (k : String) :
    lastHandler (hist ++ [c]) k = if c.key = k then c.handler? else lastHandler hist k := by
  unfold lastHandler
  rw [List.reverse_append, List.reverse_singleton, List.singleton_append, List.find?_cons]
  by_cases hk : c.key = k
  · simp [hk]
  · rw [beq_false_of_ne hk]
    simp [hk]

/-- The handler under a key after a history is the one that the key's last change registered. -/
theorem get?_foldl_apply (hist : List Change) (k : String) :
    (hist.foldl apply {}).handlers.get? k = lastHandler hist k := by
  induction hist using List.reverseRecOn with
  | nil => rfl
  | append_singleton hist c ih =>
    rw [List.foldl_append, List.foldl_cons, List.foldl_nil, lastHandler_snoc]
    cases c with
    | put s h =>
      show ((hist.foldl apply {}).handlers.insert (keyOf s) h).get? k = _
      by_cases hk : keyOf s = k
      · subst hk
        simp [Change.key, Change.handler?]
      · rw [Ledger.get?_insert_of_ne _ _ (Ne.symm hk), ih]
        simp [Change.key, hk]
    | drop j =>
      show ((hist.foldl apply {}).handlers.erase j).get? k = _
      rw [Ledger.get?_erase, ih]
      by_cases hk : j = k
      · subst hk
        simp [Change.key, Change.handler?]
      · simp [Change.key, hk, Ne.symm hk]

theorem mem_names_foldl_apply (hist : List Change) (k : String) :
    k ∈ (hist.foldl apply {}).names ↔ (lastHandler hist k).isSome := by
  rw [names, Ledger.mem_keys_iff, get?_foldl_apply]

/-- A change at a position before the new last one starts a life in the longer history when it
did in the shorter one and the new change does not remove its key. -/
theorem startsLife_snoc_of_lt {hist : List Change} (c d : Change) {i : Nat}
    (hi : i < hist.length) :
    startsLife (hist ++ [c]) d i = (startsLife hist d i && (c.isPut || d.key != c.key)) := by
  unfold startsLife
  rw [List.take_append_of_le_length hi.le, List.drop_append_of_le_length (by omega),
    List.all_append, List.all_cons, List.all_nil, Bool.and_true]
  simp only [Bool.and_assoc]

theorem startsLife_snoc_self (hist : List Change) (c : Change) :
    startsLife (hist ++ [c]) c hist.length = (c.isPut && (lastHandler hist c.key).isNone) := by
  unfold startsLife
  rw [List.take_left, List.drop_eq_nil_of_le (by simp), List.all_nil, Bool.and_true]

/-- A new last change takes out of the live order the key it removes, and appends the key it
registers when that key had no handler. -/
theorem liveOrder_snoc (hist : List Change) (c : Change) :
    liveOrder (hist ++ [c]) =
      (liveOrder hist).filter (fun k => c.isPut || k != c.key) ++
        (if c.isPut && (lastHandler hist c.key).isNone then [c.key] else []) := by
  unfold liveOrder
  rw [List.zipIdx_append, List.filterMap_append, List.zipIdx_singleton, List.filter_filterMap]
  congr 1
  · apply List.filterMap_congr
    rintro ⟨d, i⟩ hmem
    have hi : i < hist.length := by simpa using (List.mem_zipIdx hmem).2.1
    rw [startsLife_snoc_of_lt c d hi]
    by_cases hs : startsLife hist d i <;> by_cases hc : (c.isPut || d.key != c.key) <;>
      simp [hs, hc, Option.filter_some]
  · simp only [Nat.zero_add, List.filterMap_cons, List.filterMap_nil, startsLife_snoc_self]
    by_cases hc : (c.isPut && (lastHandler hist c.key).isNone) = true <;> simp [hc]

/-- The keys after a history are in the order of the registrations that started their current
life. -/
theorem names_foldl_apply (hist : List Change) : (hist.foldl apply {}).names = liveOrder hist := by
  induction hist using List.reverseRecOn with
  | nil => rfl
  | append_singleton hist c ih =>
    rw [List.foldl_append, List.foldl_cons, List.foldl_nil, liveOrder_snoc, ← ih]
    cases c with
    | put s h =>
      -- a registration appends its key unless the key has a handler
      show ((hist.foldl apply {}).handlers.insert (keyOf s) h).keys = _
      rw [Ledger.keys_insert]
      have hmem := mem_names_foldl_apply hist (keyOf s)
      cases hl : lastHandler hist (keyOf s) with
      | none =>
        have hk : keyOf s ∉ (hist.foldl apply {}).handlers.keys := fun hk => by
          simpa [hl] using hmem.1 hk
        simp [Change.isPut, Change.key, hl, hk, names]
      | some h' =>
        have hk : keyOf s ∈ (hist.foldl apply {}).handlers.keys := hmem.2 (by simp [hl])
        simp [Change.isPut, Change.key, hl, hk, names]
    | drop j =>
      show ((hist.foldl apply {}).handlers.erase j).keys = _
      rw [Ledger.keys_erase]
      simp [Change.isPut, Change.key, names]

/-! ## What calls keep -/

/-- Whether a change is one that a call can make: a registration is of an admitted name. -/
def Change.Admitted : Change → Prop
  | .put name _ => Admits name
  | .drop _ => True

theorem entryChange?_admitted {entry : Data} {c : Change} (h : entryChange? entry = some c) :
    c.Admitted := by
  cases entry with
  | map fields =>
    obtain ⟨s, hd, rfl, hs⟩ := registration?_put h
    exact hs
  | _ => cases h

theorem changesOf_admitted (es : List Data) : ∀ c ∈ changesOf es, c.Admitted := by
  induction es with
  | nil => intro c hc; cases hc
  | cons e es ih =>
    intro c hc
    unfold changesOf at hc
    split at hc
    · rename_i c' he
      rcases List.mem_cons.mp hc with rfl | hc
      · exact entryChange?_admitted he
      · exact ih c hc
    · cases hc

/-- Every change of a call registers an admitted name or removes a key. -/
theorem Call.changes_admitted (c : Call) : ∀ d ∈ c.changes, d.Admitted := by
  by_cases hc : ∃ key, c = .remove key
  · obtain ⟨key, rfl⟩ := hc
    intro d hd
    simp only [Call.changes, List.mem_singleton] at hd
    subst hd
    trivial
  · simp only [not_exists] at hc
    cases h : c.entries with
    | some es =>
      rw [Call.changes_of_entries h]
      exact changesOf_admitted es
    | none =>
      rw [Call.changes_of_entries_none h hc]
      intro d hd
      cases hd

/-- A key of the live order is the key of a registration of the history. -/
theorem mem_liveOrder {hist : List Change} {k : String} (hk : k ∈ liveOrder hist) :
    ∃ c ∈ hist, c.isPut = true ∧ c.key = k := by
  obtain ⟨⟨c, i⟩, hmem, hsome⟩ := List.mem_filterMap.mp hk
  by_cases hs : startsLife hist c i = true
  · simp only [hs, if_true, Option.some.injEq] at hsome
    have hput : c.isPut = true := by
      simp only [startsLife, Bool.and_eq_true] at hs
      exact hs.1.1
    exact ⟨c, List.fst_mem_of_mem_zipIdx hmem, hput, hsome⟩
  · simp [hs] at hsome

/-- After a history of changes that calls can make, every key is the key of an admitted name that
the history registered. -/
theorem names_admitted {hist : List Change} (hadm : ∀ c ∈ hist, c.Admitted) {k : String}
    (hk : k ∈ (hist.foldl apply {}).names) :
    ∃ s h, Change.put s h ∈ hist ∧ Admits s ∧ keyOf s = k := by
  rw [names_foldl_apply] at hk
  obtain ⟨c, hc, hput, rfl⟩ := mem_liveOrder hk
  cases c with
  | put s h => exact ⟨s, h, hc, hadm _ hc, rfl⟩
  | drop j => cases hput

/-- The key of an admitted name is never empty. -/
theorem keyOf_ne_empty {name : String} (h : Admits name) : keyOf name ≠ "" := by
  rw [keyOf, Ne, lower_eq_empty_iff, trim_eq_empty_iff, h.1]
  exact Bool.false_ne_true

/-- A registry none of whose keys is a keyword of the language has no handler for a keyword of
the language, written in any case. -/
theorem get?_eq_none_of_lookup {r : Registry} (hr : ∀ k ∈ r.names, Keyword.isReserved k = false)
    {kw : String} (hkw : (Keyword.lookup? kw).isSome) : r.get? kw = none := by
  cases h : r.handlers.get? (lower kw) with
  | none => exact h
  | some hd =>
    -- the lookup lower-cases the word as `get?` does, so the word's key is reserved
    have hres : Keyword.isReserved (lower kw) = true := hkw
    have hmem : lower kw ∈ r.names := (Ledger.mem_keys_iff _ _).mpr (by simp [h])
    rw [hr _ hmem] at hres
    cases hres

end Registry

/-- A handler call for a keyword without a handler fails as an unknown keyword and changes
nothing. -/
theorem callHandler_of_get?_none (deeper : Runner) {keyword : String} (line : Int)
    (content : String) {m : Machine} (h : m.context.keywords.get? keyword = none) :
    (callHandler deeper keyword line content).on m =
      (.error (.staged ⟨keyword, line, s!"Unknown keyword '{keyword}' (line:{line})",
        .unknownKeyword⟩), m) := by
  simp only [callHandler, Run.on_context_bind, h]
  rfl

open Registry in
/-- The registry after any calls, each succeeding or failing, from the empty one: its keys are in
the order of the registrations that started their current life, each with the handler of the
key's last change; each key is the key of an admitted name registered on the way, neither empty
nor a keyword of the language, and has a handler; a keyword of the language, in any case, finds no
handler, so a handler call for it fails as an unknown keyword and changes nothing; and any call
that fails has registered exactly the entries before the one that failed. -/
theorem registry_follows_its_history (calls : List Call) :
    (callAll {} calls).names = liveOrder (calls.flatMap Call.changes) ∧
    (∀ k, (callAll {} calls).handlers.get? k = lastHandler (calls.flatMap Call.changes) k) ∧
    (∀ k ∈ (callAll {} calls).names, k ≠ "" ∧ Keyword.isReserved k = false ∧
      (∃ h, (callAll {} calls).handlers.get? k = some h) ∧
      ∃ s h, Change.put s h ∈ calls.flatMap Call.changes ∧ Admits s ∧ keyOf s = k) ∧
    (∀ kw, (Keyword.lookup? kw).isSome → (callAll {} calls).get? kw = none) ∧
    (∀ (m : Machine), m.context.keywords = callAll {} calls →
      ∀ deeper kw line content, (Keyword.lookup? kw).isSome →
        (callHandler deeper kw line content).on m =
          (.error (.staged ⟨kw, line, s!"Unknown keyword '{kw}' (line:{line})",
            .unknownKeyword⟩), m)) ∧
    ∀ (r r' : Registry) (c : Call) (err : RegistryError), r.call c = (r', some err) →
      (c.entries = none ∧ r' = r) ∨ ∃ pre e post, c.entries = some (pre ++ e :: post) ∧
        r.registerEntries pre = (r', none) ∧ r'.registerEntry e = .error err := by
  have hr := callAll_eq {} calls
  have hadm : ∀ c ∈ calls.flatMap Call.changes, c.Admitted := by
    intro c hc
    obtain ⟨call, _, hc⟩ := List.mem_flatMap.mp hc
    exact Call.changes_admitted call c hc
  have hkeys : ∀ k ∈ (callAll {} calls).names,
      ∃ s h, Change.put s h ∈ calls.flatMap Call.changes ∧ Admits s ∧ keyOf s = k := by
    rw [hr]
    exact fun k hk => names_admitted hadm hk
  have hreserved : ∀ k ∈ (callAll {} calls).names, Keyword.isReserved k = false := by
    intro k hk
    obtain ⟨s, _, _, hs, rfl⟩ := hkeys k hk
    exact hs.2
  have hnone : ∀ kw, (Keyword.lookup? kw).isSome → (callAll {} calls).get? kw = none :=
    fun kw hkw => get?_eq_none_of_lookup hreserved hkw
  refine ⟨by rw [hr, names_foldl_apply], fun k => by rw [hr, get?_foldl_apply], ?_, hnone, ?_,
    fun _ _ _ _ h => call_eq_some h⟩
  · intro k hk
    obtain ⟨s, h, hmem, hs, rfl⟩ := hkeys k hk
    refine ⟨keyOf_ne_empty hs, hs.2, ?_, s, h, hmem, hs, rfl⟩
    exact Option.isSome_iff_exists.mp ((Ledger.mem_keys_iff _ _).mp hk)
  · intro m hm deeper kw line content hkw
    apply callHandler_of_get?_none
    rw [hm]
    exact hnone kw hkw

/-- Registering ` Shout `, then `EX` through the one entry point (refused), then removing `shout`:
the keyword `Ex` finds no handler. -/
theorem registry_follows_its_history_sample :
    (Keyword.lookup? "Ex").isSome ∧
      (Registry.callAll {} [.register (.text " Shout ") (.handler { act := fun _ _ => .fail "no" }),
        .registerKeyword (.text "EX") (.handler { act := fun _ _ => .fail "no" }),
        .remove "shout"]).get? "Ex" = none :=
  ⟨by decide +kernel, (registry_follows_its_history _).2.2.2.1 "Ex" (by decide +kernel)⟩

-- a second registration of a key replaces its handler where the key stands
example :
    (Registry.callAll {} [.register (.text "a") (.handler { act := fun _ _ => .fail "1" }),
      .register (.text "b") (.handler { act := fun _ _ => .fail "2" }),
      .register (.text " A") (.handler { act := fun _ _ => .fail "3" })]).names = ["a", "b"] := by
  decide +kernel

end Colonnade
