import TagQuery.Toml.Document

/-!
Documents have no key twice. An entry is added only under a new key, whether the table is
made by a header, by dots or by braces, so no two entries of a table, at any depth, have the
same key.

* `Node.IsProper`, `Entries.IsProper`: tables with distinct keys throughout;
* `isProper_alter`: what is changed at the end of a path leaves the tables on it proper;
* `Gives`: what holds of all that a reader may give;
* `isProper_of_read`: **a document that is read has distinct keys.**
-/

namespace TagQuery.Toml

/-- A node all of whose tables have distinct keys. -/
inductive Node.IsProper : Node → Prop where
  | scalar (x : Scalar) (span : Span) : IsProper (.scalar x span)
  | array {items : List Node} (span : Span) (h : ∀ x ∈ items, IsProper x) :
      IsProper (.array items span)
  | table {es : List (Key × Node)} (origin : Origin) (span? : Option Span)
      (hkeys : (es.map fun e => e.1.name).Nodup) (h : ∀ e ∈ es, IsProper e.2) :
      IsProper (.table origin span? es)
  | tables {blocks : List Node} (h : ∀ x ∈ blocks, IsProper x) : IsProper (.tables blocks)

structure Entries.IsProper (es : Entries) : Prop where
  distinct : es.keys.Nodup
  proper : ∀ e ∈ es, e.2.IsProper

/-! ## Entries -/

theorem Node.isProper_table_iff (origin : Origin) (span? : Option Span) (es : Entries) :
    (Node.table origin span? es).IsProper ↔ Entries.IsProper es := by
  constructor
  · rintro (_ | _ | ⟨_, _, hkeys, hvalues⟩ | _)
    exact ⟨hkeys, hvalues⟩
  · intro h
    exact .table origin span? h.distinct h.proper

theorem Node.isProper_tables_cons_iff (block : Node) (older : List Node) :
    (Node.tables (block :: older)).IsProper ↔ block.IsProper ∧ (Node.tables older).IsProper := by
  constructor
  · rintro (_ | _ | _ | h)
    rw [List.forall_mem_cons] at h
    exact ⟨h.1, .tables h.2⟩
  · rintro ⟨hblock, _ | _ | _ | holder⟩
    exact .tables (List.forall_mem_cons.mpr ⟨hblock, holder⟩)

namespace Entries

variable {es : Entries}

theorem find?_eq_none_iff (es : Entries) (name : String) :
    es.find? name = none ↔ name ∉ es.keys := by
  rw [find?, List.find?_eq_none, keys, List.mem_map]
  simp

theorem mem_of_find? {name : String} {e : Key × Node} (h : es.find? name = some e) : e ∈ es :=
  List.mem_of_find?_eq_some h

theorem isProper_nil : IsProper [] := ⟨List.nodup_nil, by simp⟩

/-- A new key goes last. -/
theorem IsProper.concat (h : es.IsProper) {k : Key} {x : Node} (hnew : es.find? k.name = none)
    (hx : x.IsProper) : IsProper (es ++ [(k, x)]) := by
  constructor
  · have hkeys : Entries.keys (es ++ [(k, x)]) = es.keys ++ [k.name] := by simp [Entries.keys]
    rw [hkeys, List.nodup_append]
    refine ⟨h.distinct, by simp, ?_⟩
    rintro a ha b hb rfl
    rw [List.mem_singleton.mp hb] at ha
    exact (find?_eq_none_iff es k.name).mp hnew ha
  · intro e he
    rcases List.mem_append.mp he with he | he
    · exact h.proper e he
    · rw [List.mem_singleton.mp he]
      exact hx

/-- A key that is there already keeps its place. -/
theorem IsProper.set (h : es.IsProper) (name : String) {x : Node} (hx : x.IsProper) :
    IsProper (es.set name x) := by
  constructor
  · have hkeys : (es.set name x).keys = es.keys := by
      rw [Entries.keys, Entries.set, Entries.keys, List.map_map]
      apply List.map_congr_left
      intro e _
      by_cases he : e.1.name = name <;> simp [he]
    rw [hkeys]
    exact h.distinct
  · intro e he
    obtain ⟨e, hmem, rfl⟩ := List.mem_map.mp he
    split
    · exact hx
    · exact h.proper e hmem

theorem IsProper.erase (h : es.IsProper) (name : String) : IsProper (es.erase name) := by
  constructor
  · exact h.distinct.sublist (List.filter_sublist.map _)
  · intro e he
    exact h.proper e (List.mem_filter.mp he).1

theorem find?_erase (es : Entries) (name : String) : (es.erase name).find? name = none := by
  rw [find?_eq_none_iff, Entries.keys, Entries.erase]
  simp

/-! ## Changes -/

/-- Takes proper tables to proper tables, where it takes them anywhere. -/
def KeepsProper (change : Entries → Option Entries) : Prop :=
  ∀ inner inner', inner.IsProper → change inner = some inner' → inner'.IsProper

/-- **What is changed at the end of a path leaves the tables on it proper.** -/
theorem isProper_alter {place : Place} {change : Origin → Entries → Option Entries}
    (hchange : ∀ origin, KeepsProper (change origin)) (path : List Key) (origin : Origin) :
    KeepsProper (Entries.alter place change path origin) := by
  induction path generalizing origin with
  | nil => exact hchange origin
  | cons k path ih =>
    intro es es' hes halter
    rw [Entries.alter] at halter
    split at halter
    next hnone =>
      obtain ⟨inner, hinner, heq⟩ := Option.bind_eq_some_iff.mp halter
      obtain rfl := Option.some.inj heq
      have hproper := ih place.makes [] inner isProper_nil hinner
      exact hes.concat hnone ((Node.isProper_table_iff _ _ _).mpr hproper)
    next key made span? inner hsome =>
      split at halter
      next =>
        obtain ⟨inner', hinner, heq⟩ := Option.bind_eq_some_iff.mp halter
        obtain rfl := Option.some.inj heq
        have hold := (Node.isProper_table_iff _ _ _).mp (hes.proper _ (mem_of_find? hsome))
        have hinner' := ih made inner inner' hold hinner
        exact hes.set k.name ((Node.isProper_table_iff _ _ _).mpr hinner')
      next => cases halter
    next key blocks hsome =>
      have hblocks := hes.proper _ (mem_of_find? hsome)
      split at halter
      next made span? inner older =>
        split at halter
        next => cases halter
        next =>
          obtain ⟨inner', hinner, heq⟩ := Option.bind_eq_some_iff.mp halter
          obtain rfl := Option.some.inj heq
          rw [Node.isProper_tables_cons_iff, Node.isProper_table_iff] at hblocks
          apply hes.set
          rw [Node.isProper_tables_cons_iff, Node.isProper_table_iff]
          exact ⟨ih made inner inner' hblocks.1 hinner, hblocks.2⟩
      next => cases halter
    next => cases halter

theorem keepsProper_add (place : Place) {p : Pair} (hp : p.value.IsProper) :
    KeepsProper fun es => Entries.add place es p := by
  apply isProper_alter
  intro origin inner inner' hinner hadd
  dsimp only at hadd
  split at hadd
  next => cases hadd
  next =>
    split at hadd
    next => cases hadd
    next hnew =>
      obtain rfl := Option.some.inj hadd
      exact hinner.concat (Option.not_isSome_iff_eq_none.mp hnew) hp

theorem keepsProper_addAll (place : Place) {ps : List Pair} (hps : ∀ p ∈ ps, p.value.IsProper) :
    KeepsProper fun es => Entries.addAll place es ps := by
  induction ps with
  | nil =>
    intro es es' hes hadd
    obtain rfl := Option.some.inj hadd
    exact hes
  | cons p ps ih =>
    intro es es' hes hadd
    rw [List.forall_mem_cons] at hps
    obtain ⟨between, hp, hrest⟩ := Option.bind_eq_some_iff.mp hadd
    exact ih hps.2 between es' (keepsProper_add place hps.1 es between hes hp) hrest

theorem keepsProper_addSection {s : Section} (hs : ∀ p ∈ s.pairs, p.value.IsProper) :
    KeepsProper fun es => Entries.addSection es s := by
  apply isProper_alter
  intro origin inner inner' hinner hadd
  dsimp only at hadd
  split at hadd
  next hnone =>
    obtain ⟨es, hes, heq⟩ := Option.bind_eq_some_iff.mp hadd
    obtain rfl := Option.some.inj heq
    have htable := (Node.isProper_table_iff .header s.extent es).mpr
      (keepsProper_addAll .line hs [] es isProper_nil hes)
    apply hinner.concat hnone
    split
    · exact (Node.isProper_tables_cons_iff _ _).mpr ⟨htable, .tables (by simp)⟩
    · exact htable
  next key span? known hsome =>
    split at hadd
    next => cases hadd
    next =>
      obtain ⟨es, hes, heq⟩ := Option.bind_eq_some_iff.mp hadd
      obtain rfl := Option.some.inj heq
      have hknown := (Node.isProper_table_iff _ _ _).mp (hinner.proper _ (mem_of_find? hsome))
      have htable := (Node.isProper_table_iff .header s.extent es).mpr
        (keepsProper_addAll .line hs known es hknown hes)
      exact (hinner.erase _).concat (find?_erase inner _) htable
  next key blocks hsome =>
    split at hadd
    next =>
      obtain ⟨es, hes, heq⟩ := Option.bind_eq_some_iff.mp hadd
      obtain rfl := Option.some.inj heq
      have htable := (Node.isProper_table_iff .header s.extent es).mpr
        (keepsProper_addAll .line hs [] es isProper_nil hes)
      have hblocks := hinner.proper _ (mem_of_find? hsome)
      exact hinner.set _ ((Node.isProper_tables_cons_iff _ _).mpr ⟨htable, hblocks⟩)
    next => cases hadd
  next => cases hadd

end Entries

theorem isProper_of_assemble {top : List Pair} {sections : List Section} {es : Entries}
    (htop : ∀ p ∈ top, p.value.IsProper)
    (hsections : ∀ s ∈ sections, ∀ p ∈ s.pairs, p.value.IsProper)
    (h : assemble top sections = some es) : es.IsProper := by
  obtain ⟨start, hstart, hrest⟩ := Option.bind_eq_some_iff.mp h
  have hproper := Entries.keepsProper_addAll .line htop [] start Entries.isProper_nil hstart
  clear h hstart
  induction sections generalizing start with
  | nil =>
    obtain rfl := Option.some.inj hrest
    exact hproper
  | cons s sections ih =>
    rw [List.forall_mem_cons] at hsections
    obtain ⟨next, hnext, hrest⟩ := Option.bind_eq_some_iff.mp hrest
    exact ih hsections.2 next hrest
      (Entries.keepsProper_addSection hsections.1 start next hproper hnext)

/-! ## Reading -/

/-- All that a reader may give has a property. -/
def Gives {α : Type} (P : α → Prop) (r : Reader α) : Prop :=
  ∀ cs x rest, r cs = some (x, rest) → P x

section Gives

variable {α β : Type} {P : β → Prop} {Q : α → Prop} {r : Reader α} {f : α → Reader β}

theorem gives_pure {x : β} (h : P x) : Gives P (pure x) := by
  intro cs y rest hy
  obtain ⟨rfl, -⟩ := Prod.mk.inj (Option.some.inj hy)
  exact h

theorem gives_failure : Gives P failure := by
  intro cs y rest hy
  cases hy

theorem gives_bind (hr : Gives Q r) (hf : ∀ x, Q x → Gives P (f x)) : Gives P (r >>= f) := by
  intro cs y rest hy
  obtain ⟨⟨x, between⟩, hx, hy⟩ := Option.bind_eq_some_iff.mp hy
  exact hf x (hr cs x between hx) between y rest hy

/-- Where it does not matter what is read first. -/
theorem gives_after (hf : ∀ x, Gives P (f x)) : Gives P (r >>= f) := by
  have hany : Gives (fun _ => True) r := fun _ _ _ _ => trivial
  exact gives_bind hany fun x _ => hf x

theorem gives_lift {o : Option β} (h : ∀ x, o = some x → P x) : Gives P (liftM o) := by
  intro cs y rest hy
  obtain ⟨x, hx, heq⟩ := Option.bind_eq_some_iff.mp hy
  obtain ⟨rfl, -⟩ := Prod.mk.inj (Option.some.inj heq)
  exact h x hx

theorem gives_spanned (h : Gives Q r) : Gives (fun x => Q x.1) (spanned r) :=
  gives_after fun _ => gives_bind h fun _ hx => gives_after fun _ => gives_pure hx

end Gives

theorem gives_readItems {item : Reader Node} (hitem : Gives Node.IsProper item) {out : List Node}
    (hout : ∀ x ∈ out, x.IsProper) (fuel : Nat) :
    Gives (fun items => ∀ x ∈ items, Node.IsProper x) (readItems item out fuel) := by
  induction fuel generalizing out with
  | zero => exact gives_failure
  | succ fuel ih =>
    refine gives_after fun _ => gives_after fun c => ?_
    split
    · exact gives_after fun _ => gives_pure (by simpa using hout)
    · refine gives_bind hitem fun x hx => gives_after fun _ => gives_after fun c => ?_
      have hmore : ∀ y ∈ x :: out, y.IsProper := List.forall_mem_cons.mpr ⟨hx, hout⟩
      split
      · exact gives_after fun _ => ih hmore
      · refine gives_after fun _ => gives_pure fun y hy => hmore y (List.mem_reverse.mp hy)

theorem gives_readPair {value : Reader Node} (hvalue : Gives Node.IsProper value) :
    Gives (fun p => p.value.IsProper) (readPair value) :=
  gives_after fun _ => gives_after fun _ => gives_after fun _ =>
    gives_bind hvalue fun _ hx => gives_pure hx

theorem gives_readPairs {value : Reader Node} (hvalue : Gives Node.IsProper value)
    {out : List Pair} (hout : ∀ p ∈ out, p.value.IsProper) (fuel : Nat) :
    Gives (fun ps => ∀ p ∈ ps, Node.IsProper p.value) (readPairs value out fuel) := by
  induction fuel generalizing out with
  | zero => exact gives_failure
  | succ fuel ih =>
    refine gives_bind (gives_readPair hvalue) fun p hp => ?_
    refine gives_after fun _ => gives_after fun c => ?_
    have hmore : ∀ q ∈ p :: out, q.value.IsProper := List.forall_mem_cons.mpr ⟨hp, hout⟩
    split
    · exact gives_after fun _ => ih hmore
    · exact gives_pure fun q hq => hmore q (List.mem_reverse.mp hq)

theorem gives_readBraces {value : Reader Node} (hvalue : Gives Node.IsProper value) (size : Nat) :
    Gives Entries.IsProper (readBraces value size) := by
  refine gives_after fun _ => gives_after fun _ => gives_after fun c => ?_
  split
  · exact gives_after fun _ => gives_pure Entries.isProper_nil
  · refine gives_bind (gives_readPairs hvalue (by simp) size) fun ps hps => gives_after fun _ => ?_
    exact gives_lift fun es hes =>
      Entries.keepsProper_addAll .braces hps [] es Entries.isProper_nil hes

theorem gives_readLeaf : Gives Node.IsProper readValue.readLeaf :=
  gives_after fun _ => gives_pure (.scalar _ _)

theorem gives_readValue (size depth : Nat) : Gives Node.IsProper (readValue size depth) := by
  induction depth with
  | zero => exact gives_readLeaf
  | succ depth ih =>
    refine gives_after fun c => ?_
    split
    · have hitems : Gives (fun items => ∀ x ∈ items, Node.IsProper x)
          (do skip '['; readItems (readValue size depth) [] size) :=
        gives_after fun _ => gives_readItems ih (by simp) size
      exact gives_bind (gives_spanned hitems) fun x hx => gives_pure (.array _ hx)
    · exact gives_bind (gives_spanned (gives_readBraces ih size)) fun x hx =>
        gives_pure ((Node.isProper_table_iff _ _ _).mpr hx)
    · exact gives_readLeaf

/-- The value of a line, if it has one, is proper. -/
def Line.IsProper : Line → Prop
  | blank => True
  | header s => s.pairs = []
  | pair p => p.value.IsProper

theorem gives_readLine (size : Nat) : Gives Line.IsProper (readLine size) := by
  refine gives_after fun c => ?_
  split
  · exact gives_after fun _ => gives_pure trivial
  · have hheader : Gives (fun s => s.pairs = []) readHeader :=
      gives_after fun _ => gives_after fun _ => gives_after fun _ => gives_pure rfl
    exact gives_bind hheader fun s hs => gives_pure hs
  · exact gives_after fun _ => gives_pure trivial
  · exact gives_after fun _ => gives_pure trivial
  · exact gives_bind (gives_readPair (gives_readValue size depthLimit)) fun p hp =>
      gives_after fun _ => gives_pure hp

theorem gives_readLines (size : Nat) {out : List Line} (hout : ∀ l ∈ out, l.IsProper) (fuel : Nat) :
    Gives (fun lines => ∀ l ∈ lines, Line.IsProper l) (readLines size out fuel) := by
  induction fuel generalizing out with
  | zero => exact gives_failure
  | succ fuel ih =>
    refine gives_after fun _ => gives_after fun cs => ?_
    split
    · exact gives_pure hout
    · refine gives_bind (gives_readLine size) fun l hl => ?_
      split
      · exact ih hout
      · exact ih (List.forall_mem_cons.mpr ⟨hl, hout⟩)

theorem isProper_sectionsOf {lines : List Line} (h : ∀ l ∈ lines, l.IsProper) :
    (∀ p ∈ (sectionsOf lines).1, p.value.IsProper) ∧
    ∀ s ∈ (sectionsOf lines).2, ∀ p ∈ s.pairs, p.value.IsProper := by
  refine List.foldlRecOn (motive := fun found : List Pair × List Section =>
    (∀ p ∈ found.1, p.value.IsProper) ∧ ∀ s ∈ found.2, ∀ p ∈ s.pairs, p.value.IsProper)
    lines _ ⟨by simp, by simp⟩ ?_
  rintro ⟨pairs, sections⟩ ⟨hpairs, hsections⟩ line hline
  cases line with
  | blank => exact ⟨hpairs, hsections⟩
  | header s => exact ⟨by simp, List.forall_mem_cons.mpr ⟨hpairs, hsections⟩⟩
  | pair p => exact ⟨List.forall_mem_cons.mpr ⟨h _ hline, hpairs⟩, hsections⟩

/-- **A document that is read has distinct keys** in all its tables. -/
theorem isProper_of_read {document : String} {es : Entries} (h : read document = some es) :
    es.IsProper := by
  obtain ⟨⟨lines, rest⟩, hlines, h⟩ := Option.bind_eq_some_iff.mp h
  have hproper := gives_readLines _ (by simp) _ _ lines rest hlines
  obtain ⟨htop, hsections⟩ := isProper_sectionsOf hproper
  exact isProper_of_assemble htop hsections h

end TagQuery.Toml
