import Mathlib.Data.List.Induction
import Mathlib.Data.List.Nodup
import Mathlib.Tactic.Tauto
import EchoInjector.Log.Filter

/-!
# Which directive decides

Of the directives that cover a path, the one with the longest reach decides, so a specification is in
competition with the directives that a filter starts from. Its own directives are those of the
filter **stated** by it, which starts from none. Added to a filter, they take the places of those for
the same paths, and all others stay as they were (`mem_directives_extend`).

The program's own directive reaches as far as the program's path, and every topic lies on or below
this path. So it is decided by the stated filter alone about the topics that are **named** there, by
the program's path or a longer one (`deciding?_of_names`). About all other topics the program's own
directive decides, whatever the specification says about shorter paths or about everything
(`deciding?_of_not_names`).
-/

namespace EchoInjector.Log

/-! ### Adding directives -/

/-- The directives of a list are **for distinct paths**. -/
def DistinctPaths (ds : List Directive) : Prop := (ds.map (·.path?)).Nodup

/-- Adds several directives one after the other. -/
def insertAll (ds all : List Directive) : List Directive := ds.foldl (fun all d => insert d all) all

theorem insertAll_concat (ds all : List Directive) (d : Directive) :
    insertAll (ds ++ [d]) all = insert d (insertAll ds all) := by
  rw [insertAll, List.foldl_append]
  rfl

/-- A directive that is added brings its path with it and takes none away. -/
theorem mem_paths_insert {d : Directive} {all : List Directive} {path? : Option String} :
    path? ∈ (insert d all).map (·.path?) ↔ path? = d.path? ∨ path? ∈ all.map (·.path?) := by
  induction all with
  | nil => simp [insert]
  | cons e rest ih =>
    rw [insert]
    split
    case isTrue hsame => simp [hsame]
    case isFalse =>
      rw [List.map_cons, List.mem_cons, ih, List.map_cons, List.mem_cons]
      exact or_left_comm

theorem DistinctPaths.insert {all : List Directive} (h : DistinctPaths all) (d : Directive) :
    DistinctPaths (insert d all) := by
  induction all with
  | nil => exact List.nodup_singleton _
  | cons e rest ih =>
    obtain ⟨hnew, hrest⟩ : e.path? ∉ rest.map (·.path?) ∧ DistinctPaths rest := List.nodup_cons.mp h
    rw [Log.insert]
    split
    case isTrue hsame =>
      rw [hsame] at hnew
      exact List.nodup_cons.mpr ⟨hnew, hrest⟩
    case isFalse hother =>
      refine List.nodup_cons.mpr ⟨fun hmem => ?_, ih hrest⟩
      exact (mem_paths_insert.mp hmem).elim hother hnew

/-- **A directive that is added replaces the one for its path**, and nothing else. -/
theorem mem_insert {d e : Directive} {all : List Directive} (h : DistinctPaths all) :
    e ∈ insert d all ↔ e = d ∨ e ∈ all ∧ e.path? ≠ d.path? := by
  induction all with
  | nil => simp [insert]
  | cons first rest ih =>
    obtain ⟨hnew, hrest⟩ : first.path? ∉ rest.map (·.path?) ∧ DistinctPaths rest :=
      List.nodup_cons.mp h
    rw [insert]
    split
    case isTrue hsame =>
      -- nothing further on is for the same path
      have hothers : e ∈ rest → e.path? ≠ d.path? := by
        intro hmem heq
        rw [hsame, ← heq] at hnew
        exact hnew (List.mem_map_of_mem hmem)
      rw [List.mem_cons, List.mem_cons]
      refine or_congr_right ⟨fun hmem => ⟨.inr hmem, hothers hmem⟩, ?_⟩
      rintro ⟨rfl | hmem, hne⟩
      · exact absurd hsame hne
      · exact hmem
    case isFalse hother =>
      rw [List.mem_cons, List.mem_cons, ih hrest]
      constructor
      · rintro (rfl | rfl | ⟨hmem, hne⟩)
        · exact .inr ⟨.inl rfl, hother⟩
        · exact .inl rfl
        · exact .inr ⟨.inr hmem, hne⟩
      · rintro (rfl | ⟨rfl | hmem, hne⟩)
        · exact .inr (.inl rfl)
        · exact .inl rfl
        · exact .inr (.inr ⟨hmem, hne⟩)

theorem DistinctPaths.insertAll {all : List Directive} (h : DistinctPaths all)
    (ds : List Directive) : DistinctPaths (insertAll ds all) := by
  induction ds using List.reverseRecOn with
  | nil => exact h
  | append_singleton ds d ih =>
    rw [insertAll_concat]
    exact ih.insert d

theorem distinctPaths_nil : DistinctPaths [] := List.nodup_nil

/-- What comes of several directives is the same wherever they are added, and a directive that was
there before is kept unless one of them is for its path. -/
theorem mem_insertAll {ds all : List Directive} {e : Directive} (h : DistinctPaths all) :
    e ∈ insertAll ds all ↔
      e ∈ insertAll ds [] ∨ e ∈ all ∧ ∀ d ∈ insertAll ds [], d.path? ≠ e.path? := by
  induction ds using List.reverseRecOn generalizing e with
  | nil => simp [insertAll]
  | append_singleton ds d ih =>
    have hpaths : (∀ b ∈ insertAll (ds ++ [d]) [], b.path? ≠ e.path?) ↔
        e.path? ≠ d.path? ∧ ∀ b ∈ insertAll ds [], b.path? ≠ e.path? := by
      have hmem : e.path? ∈ (insert d (insertAll ds [])).map (·.path?) ↔ _ := mem_paths_insert
      rw [insertAll_concat, ← not_iff_not, not_and_or]
      simpa [List.mem_map] using hmem
    rw [hpaths, insertAll_concat, insertAll_concat, mem_insert (h.insertAll ds),
      mem_insert (distinctPaths_nil.insertAll ds), ih]
    tauto

/-! ### What a specification states -/

/-- A specification adds the same directives to every filter, and the same pattern to every filter
without one. -/
theorem exists_extend_eq (specification : String) :
    ∃ ds pattern?, ∀ f : Filter, f.pattern? = none →
      (f.extend specification).1
        = { directives := insertAll ds f.directives, pattern? := pattern? } := by
  cases hsplit : specification.toList.splitOn '/' with
  | nil => exact ⟨[], none, fun f hf => by simp only [Filter.extend, hsplit, ← hf]; rfl⟩
  | cons items patterns =>
    by_cases hmany : 1 < patterns.length
    · exact ⟨[], none, fun f hf => by simp only [Filter.extend, hsplit, if_pos hmany, ← hf]; rfl⟩
    · exact ⟨_, _, fun f _ => by simp only [Filter.extend, hsplit, if_neg hmany]; rfl⟩

namespace Filter

/-- The filter **stated** by a specification: what it sets, added to nothing. -/
def stated (specification : String) : Filter :=
  (extend { directives := [] } specification).1

theorem distinctPaths_stated (specification : String) :
    DistinctPaths (stated specification).directives := by
  obtain ⟨ds, pattern?, hextend⟩ := exists_extend_eq specification
  rw [stated, hextend _ rfl]
  exact distinctPaths_nil.insertAll ds

section

variable {f : Filter} {specification : String}

theorem pattern?_extend (hf : f.pattern? = none) :
    (f.extend specification).1.pattern? = (stated specification).pattern? := by
  obtain ⟨ds, pattern?, hextend⟩ := exists_extend_eq specification
  rw [stated, hextend f hf, hextend _ rfl]

/-- **A specification is added to a filter**: what it states holds, and of the rest what is for other
paths. -/
theorem mem_directives_extend {e : Directive} (hf : f.pattern? = none)
    (hdistinct : DistinctPaths f.directives) :
    e ∈ (f.extend specification).1.directives ↔
      e ∈ (stated specification).directives ∨
        e ∈ f.directives ∧ ∀ d ∈ (stated specification).directives, d.path? ≠ e.path? := by
  obtain ⟨ds, pattern?, hextend⟩ := exists_extend_eq specification
  rw [stated, hextend f hf, hextend _ rfl]
  exact mem_insertAll hdistinct

end

end Filter

/-! ### The longest reach -/

/-- Of several directives, the one with the longest reach, and of several of these the last. -/
def farthest? (ds : List Directive) : Option Directive :=
  ds.foldl
    (fun best d => match best with
      | none => some d
      | some b => if b.reach ≤ d.reach then some d else some b) none

theorem Filter.deciding?_eq (f : Filter) (path : String) :
    f.deciding? path = farthest? (f.directives.filter (·.covers path)) := rfl

theorem farthest?_concat (ds : List Directive) (d : Directive) :
    farthest? (ds ++ [d]) = match farthest? ds with
      | none => some d
      | some b => if b.reach ≤ d.reach then some d else some b := by
  rw [farthest?, List.foldl_append]
  rfl

/-- Where there are directives, the farthest is one of them, and none reaches farther. -/
theorem farthest?_spec (ds : List Directive) :
    match farthest? ds with
    | none => ds = []
    | some b => b ∈ ds ∧ ∀ e ∈ ds, e.reach ≤ b.reach := by
  induction ds using List.reverseRecOn with
  | nil => rfl
  | append_singleton ds d ih =>
    rw [farthest?_concat]
    cases hbefore : farthest? ds with
    | none =>
      simp only [hbefore] at ih
      simp [ih]
    | some b =>
      simp only [hbefore] at ih
      obtain ⟨hmem, hfarthest⟩ := ih
      dsimp only
      split_ifs with hle
      · refine ⟨by simp, fun e he => ?_⟩
        obtain he | he := List.mem_append.mp he
        · exact Nat.le_trans (hfarthest e he) hle
        · obtain rfl := List.mem_singleton.mp he
          exact Nat.le_refl _
      · refine ⟨List.mem_append_left _ hmem, fun e he => ?_⟩
        obtain he | he := List.mem_append.mp he
        · exact hfarthest e he
        · obtain rfl := List.mem_singleton.mp he
          exact Nat.le_of_not_le hle

namespace Filter

variable {f : Filter} {path : String} {d : Directive}

/-- **What decides about a path covers it, and nothing that covers it reaches farther.** -/
theorem deciding?_eq_some (h : f.deciding? path = some d) :
    d ∈ f.directives ∧ d.covers path = true ∧
      ∀ e ∈ f.directives, e.covers path = true → e.reach ≤ d.reach := by
  have hspec := farthest?_spec (f.directives.filter (·.covers path))
  rw [← deciding?_eq, h] at hspec
  obtain ⟨hmem, hfarthest⟩ := hspec
  obtain ⟨hmem, hcovers⟩ := List.mem_filter.mp hmem
  exact ⟨hmem, hcovers, fun e he hecovers => hfarthest e (List.mem_filter.mpr ⟨he, hecovers⟩)⟩

/-- Where something covers a path, something decides about it. -/
theorem exists_deciding? (hmem : d ∈ f.directives) (hcovers : d.covers path = true) :
    ∃ b, f.deciding? path = some b := by
  have hspec := farthest?_spec (f.directives.filter (·.covers path))
  rw [← deciding?_eq] at hspec
  cases hdeciding : f.deciding? path with
  | some b => exact ⟨b, rfl⟩
  | none =>
    rw [hdeciding] at hspec
    exact absurd (List.mem_filter.mpr ⟨hmem, hcovers⟩) (hspec ▸ List.not_mem_nil)

/-- **What reaches farther than all others that cover a path decides about it.** -/
theorem deciding?_eq_some_of_lt (hmem : d ∈ f.directives) (hcovers : d.covers path = true)
    (hfarther : ∀ e ∈ f.directives, e.covers path = true → e ≠ d → e.reach < d.reach) :
    f.deciding? path = some d := by
  obtain ⟨b, hb⟩ := exists_deciding? hmem hcovers
  obtain ⟨hbmem, hbcovers, hfarthest⟩ := deciding?_eq_some hb
  by_cases hbd : b = d
  · rw [hb, hbd]
  · exact absurd (hfarthest d hmem hcovers) (Nat.not_le.mpr (hfarther b hbmem hbcovers hbd))

end Filter

/-! ### Paths -/

/-- A text that another one begins with is the shorter one, or the same. -/
theorem size_le_of_start {s t : String} (h : s.toList <+: t.toList) :
    s.utf8ByteSize ≤ t.utf8ByteSize ∧ (t.utf8ByteSize ≤ s.utf8ByteSize → s = t) := by
  obtain ⟨rest, hrest⟩ := h
  obtain rfl : s ++ String.ofList rest = t := by
    rw [← String.toList_inj, String.toList_append, String.toList_ofList, hrest]
  rw [String.utf8ByteSize_append]
  refine ⟨Nat.le_add_right _ _, fun hle => ?_⟩
  have hsize : (String.ofList rest).utf8ByteSize = 0 := by omega
  rw [String.utf8ByteSize_eq_zero_iff.mp hsize, String.append_empty]

/-- Of two texts that a third one begins with, the longer one begins with the shorter one. -/
theorem starts_with_of_size_le {s t path : String} (hs : s.toList <+: path.toList)
    (ht : t.toList <+: path.toList) (hle : s.utf8ByteSize ≤ t.utf8ByteSize) :
    s.toList <+: t.toList := by
  obtain hst | hts := List.prefix_or_prefix_of_prefix hs ht
  · exact hst
  · obtain rfl := (size_le_of_start hts).2 hle
    exact List.prefix_rfl

/-- Two of them that are equally long are the same. -/
theorem eq_of_size_eq {s t path : String} (hs : s.toList <+: path.toList)
    (ht : t.toList <+: path.toList) (heq : s.utf8ByteSize = t.utf8ByteSize) : s = t :=
  (size_le_of_start (starts_with_of_size_le hs ht (Nat.le_of_eq heq))).2 (Nat.le_of_eq heq.symm)

namespace Directive

/-- A directive with a path covers what begins with it, and reaches as far as the path is long. -/
theorem covers_of_path {d : Directive} {start path : String} (h : d.path? = some start) :
    d.covers path = true ↔ start.toList <+: path.toList := by
  rw [covers, h]
  exact List.isPrefixOf_iff_prefix

theorem reach_of_path {d : Directive} {start : String} (h : d.path? = some start) :
    d.reach = start.utf8ByteSize := by
  rw [reach, h]
  rfl

/-- A directive that reaches anywhere has a path. -/
theorem exists_path {d : Directive} (h : 0 < d.reach) : ∃ path, d.path? = some path := by
  cases hpath : d.path? with
  | some path => exact ⟨path, rfl⟩
  | none =>
    rw [reach, hpath] at h
    cases h

/-- **Directives that cover one path and reach equally far are for the same paths**, unless they
reach nowhere. -/
theorem path?_eq_of_reach {d e : Directive} {path : String} (hd : d.covers path = true)
    (he : e.covers path = true) (hreach : d.reach = e.reach) (hpos : 0 < d.reach) :
    d.path? = e.path? := by
  obtain ⟨s, hs⟩ := exists_path hpos
  obtain ⟨t, ht⟩ := exists_path (hreach ▸ hpos)
  rw [reach_of_path hs, reach_of_path ht] at hreach
  rw [hs, ht, eq_of_size_eq ((covers_of_path hs).mp hd) ((covers_of_path ht).mp he) hreach]

/-- A directive **names** a topic if the topic's path begins with the directive's, and this with the
program's. -/
def Names (d : Directive) (t : Topic) : Prop :=
  ∃ path, d.path? = some path ∧ Topic.program.path.toList <+: path.toList ∧
    path.toList <+: t.path.toList

end Directive

/-- Every topic lies on or below the program's path. -/
theorem path_starts_with_program (t : Topic) : Topic.program.path.toList <+: t.path.toList := by
  cases t <;> decide

/-- The program's own directive, at a level. -/
def ownDirective (l : Level) : Directive := ⟨some Topic.program.path, some l⟩

theorem reach_ownDirective (l : Level) : (ownDirective l).reach = Topic.program.path.utf8ByteSize :=
  rfl

/-- Of the directives that cover a topic, those that name it reach as far as the program's own. -/
theorem Directive.names_iff {d : Directive} {t : Topic} {l : Level} :
    d.Names t ↔ d.covers t.path = true ∧ (ownDirective l).reach ≤ d.reach := by
  rw [reach_ownDirective]
  constructor
  · rintro ⟨path, hpath, hprogram, htopic⟩
    rw [reach_of_path hpath]
    exact ⟨(covers_of_path hpath).mpr htopic, (size_le_of_start hprogram).1⟩
  · rintro ⟨hcovers, hreach⟩
    have hpos : 0 < Topic.program.path.utf8ByteSize := by decide
    obtain ⟨path, hpath⟩ := exists_path (Nat.lt_of_lt_of_le hpos hreach)
    rw [reach_of_path hpath] at hreach
    have htopic := (covers_of_path hpath).mp hcovers
    exact ⟨path, hpath, starts_with_of_size_le (path_starts_with_program t) htopic hreach, htopic⟩

/-! ### The program's own directive -/

namespace Filter

/-- A filter **names** a topic if one of its directives does. -/
def Names (f : Filter) (t : Topic) : Prop := ∃ d ∈ f.directives, d.Names t

variable {l : Level} {t : Topic} {specification : String}

theorem mem_directives_base {e : Directive} :
    e ∈ (base l).directives ↔ e = ⟨none, some .warn⟩ ∨ e = ownDirective l := by
  rw [base, List.mem_cons, List.mem_singleton, ownDirective]

theorem distinctPaths_base (l : Level) : DistinctPaths (base l).directives := by
  simp [DistinctPaths, base]

/-- **About a topic that a specification names, it decides alone.** -/
theorem deciding?_of_names (h : (stated specification).Names t) :
    ((base l).extend specification).1.deciding? t.path
      = (stated specification).deciding? t.path := by
  obtain ⟨d, hd, hnames⟩ := h
  obtain ⟨hdcovers, hdreach⟩ := (Directive.names_iff (l := l)).mp hnames
  obtain ⟨b, hb⟩ := exists_deciding? hd hdcovers
  obtain ⟨hbmem, hbcovers, hfarthest⟩ := deciding?_eq_some hb
  have hbreach : (ownDirective l).reach ≤ b.reach := Nat.le_trans hdreach (hfarthest d hd hdcovers)
  have hpos : 0 < (ownDirective l).reach := by rw [reach_ownDirective]; decide
  rw [hb]
  refine deciding?_eq_some_of_lt ?_ hbcovers fun e he hecovers hne => ?_
  · exact (mem_directives_extend rfl (distinctPaths_base l)).mpr (.inl hbmem)
  -- what reaches as far as the deciding directive would be for the same path
  have hle : e.reach ≤ b.reach ∧ e.path? ≠ b.path? := by
    obtain hstated | ⟨hbase, hother⟩ :=
      (mem_directives_extend rfl (distinctPaths_base l)).mp he
    · refine ⟨hfarthest e hstated hecovers, fun heq => hne ?_⟩
      exact List.inj_on_of_nodup_map (distinctPaths_stated specification) hstated hbmem heq
    · refine ⟨?_, (hother b hbmem).symm⟩
      obtain rfl | rfl := mem_directives_base.mp hbase
      · exact Nat.zero_le _
      · exact hbreach
  refine Nat.lt_of_le_of_ne hle.1 fun heq => hle.2 ?_
  exact Directive.path?_eq_of_reach hecovers hbcovers heq (by omega)

/-- **About all other topics the program's own directive decides.** -/
theorem deciding?_of_not_names (h : ¬ (stated specification).Names t) :
    ((base l).extend specification).1.deciding? t.path = some (ownDirective l) := by
  have howncovers : (ownDirective l).covers t.path = true :=
    (Directive.covers_of_path rfl).mpr (path_starts_with_program t)
  refine deciding?_eq_some_of_lt ?_ howncovers fun e he hecovers hne => ?_
  · refine (mem_directives_extend rfl (distinctPaths_base l)).mpr (.inr ⟨?_, fun d hd heq => h ?_⟩)
    · exact mem_directives_base.mpr (.inr rfl)
    · exact ⟨d, hd, _, heq, List.prefix_rfl, path_starts_with_program t⟩
  · obtain hstated | ⟨hbase, -⟩ := (mem_directives_extend rfl (distinctPaths_base l)).mp he
    · refine Nat.lt_of_not_le fun hle => h ⟨e, hstated, ?_⟩
      exact Directive.names_iff.mpr ⟨hecovers, hle⟩
    · obtain rfl | rfl := mem_directives_base.mp hbase
      · show 0 < (ownDirective l).reach
        rw [reach_ownDirective]
        decide
      · exact absurd rfl hne

end Filter

end EchoInjector.Log
