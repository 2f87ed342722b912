import TableDdl.Proofs.Ddl.Rendering
import TableDdl.Proofs.Schema.Latest
import TableDdl.Proofs.Schema.Textual
import Mathlib.Data.List.Sigma

/-!
# Composite indexes

Entries that agree in the name and the kind of their index make up one index together. Which
indexes there are, and which entries belong to each, can be said without going through the entries
one after the other: an index is a name together with a kind, and its entries are those with this
name and this kind. The main statement says that the clauses are those of the indexes in this
sense, in the order in which the indexes are first met.
-/

namespace TableDdl

/-- What tells an index from the others of a table. -/
structure IndexTitle where
  keyName : String
  kind : IndexKind
  deriving DecidableEq, Repr

namespace Index

/-- The index that an entry belongs to, if it does not belong to the primary key. -/
def title (i : Index) : IndexTitle :=
  ⟨i.keyName.string, i.kind⟩

/-- Whether an entry belongs to an index. -/
def belongsTo (i : Index) (t : IndexTitle) : Bool :=
  !i.isPrimary && decide (i.title = t)

theorem belongsTo_iff {i : Index} {t : IndexTitle} :
    i.belongsTo t = true ↔ i.isPrimary = false ∧ i.title = t := by
  simp [belongsTo]

end Index

/-- The words at the start of the clause of an index. -/
def IndexTitle.opening (t : IndexTitle) : String :=
  match t.kind with
  | .unique => "UNIQUE INDEX "
  | .fulltext => "FULLTEXT INDEX "
  | .plain | .primary => "INDEX "

/-- The clause of an index with columns of the given names. -/
def IndexTitle.clause (t : IndexTitle) (columns : List String) : String :=
  t.opening ++ t.keyName ++ " (" ++ ", ".intercalate columns ++ ")"

namespace IndexGroup

/-- The indexes that entries belong to, in the order in which they are first met. -/
def titles (entries : List Index) : List IndexTitle :=
  ((entries.filter fun i => !i.isPrimary).map Index.title).eraseDups

/-- The group of an index that has the given columns. -/
def titled (columns : IndexTitle → List Value) (t : IndexTitle) : IndexGroup :=
  ⟨.text t.keyName, .str t.keyName, t.kind, columns t⟩

/-- The columns of an index, in the order of its entries. -/
def columnsIn (entries : List Index) (t : IndexTitle) : List Value :=
  (entries.filter (·.belongsTo t)).map (·.column)

/-- The groups of entries, index by index. -/
def listed (entries : List Index) : List IndexGroup :=
  (titles entries).map (titled (columnsIn entries))

theorem mem_titles {entries : List Index} {t : IndexTitle} :
    t ∈ titles entries ↔ ∃ i ∈ entries, i.isPrimary = false ∧ i.title = t := by
  simp [titles, and_assoc]

theorem titles_concat (entries : List Index) {i : Index} (secondary : i.isPrimary = false) :
    titles (entries ++ [i]) =
      if i.title ∈ titles entries then titles entries else titles entries ++ [i.title] := by
  have one : ([i].filter fun i => !i.isPrimary) = [i] := by simp [secondary]
  unfold titles
  rw [List.filter_append, one, List.map_append, List.map_singleton, NameMap.eraseDups_concat]
  simp only [List.mem_eraseDups]

theorem titles_concat_of_primary (entries : List Index) {i : Index} (primary : i.isPrimary = true) :
    titles (entries ++ [i]) = titles entries := by
  simp [titles, primary]

theorem columnsIn_concat (entries : List Index) (i : Index) (t : IndexTitle) :
    columnsIn (entries ++ [i]) t =
      if i.belongsTo t then columnsIn entries t ++ [i.column] else columnsIn entries t := by
  unfold columnsIn
  rw [List.filter_append, List.map_append]
  by_cases member : i.belongsTo t = true
  · simp [member]
  · simp [member]

/-- An index that no entry belongs to has no columns. -/
theorem columnsIn_eq_nil {entries : List Index} {t : IndexTitle} (new : t ∉ titles entries) :
    columnsIn entries t = [] := by
  rw [columnsIn, List.map_eq_nil_iff, List.filter_eq_nil_iff]
  intro i member belongs
  obtain ⟨secondary, same⟩ := Index.belongsTo_iff.mp belongs
  exact new (mem_titles.mpr ⟨i, member, secondary, same⟩)

/-- The indexes stand in the order of their first entries. -/
theorem pairwise_titles (entries : List Index) :
    (titles entries).Pairwise fun t u =>
      entries.findIdx (·.belongsTo t) < entries.findIdx (·.belongsTo u) := by
  induction entries using List.reverseRecOn with
  | nil => exact .nil
  | append_singleton entries i ih =>
    have met : ∀ t ∈ titles entries, entries.findIdx (·.belongsTo t) < entries.length := by
      intro t member
      obtain ⟨j, there, secondary, same⟩ := mem_titles.mp member
      exact List.findIdx_lt_length_of_exists ⟨j, there, Index.belongsTo_iff.mpr ⟨secondary, same⟩⟩
    have kept : (titles entries).Pairwise fun t u =>
        (entries ++ [i]).findIdx (·.belongsTo t) < (entries ++ [i]).findIdx (·.belongsTo u) := by
      refine ih.imp_of_mem fun {t u} first second before => ?_
      rwa [List.findIdx_append, List.findIdx_append, if_pos (met t first), if_pos (met u second)]
    cases primary : i.isPrimary with
    | true => rwa [titles_concat_of_primary entries primary]
    | false =>
      rw [titles_concat entries primary]
      by_cases old : i.title ∈ titles entries
      · rwa [if_pos old]
      · rw [if_neg old, List.pairwise_append]
        refine ⟨kept, List.pairwise_singleton _ _, ?_⟩
        intro t member u new
        obtain rfl := List.mem_singleton.mp new
        have late : entries.length ≤ entries.findIdx (·.belongsTo i.title) := by
          apply Nat.le_of_not_lt
          intro early
          obtain ⟨j, there, belongs⟩ := List.findIdx_lt_length.mp early
          obtain ⟨secondary, same⟩ := Index.belongsTo_iff.mp belongs
          exact old (mem_titles.mpr ⟨j, there, secondary, same⟩)
        have early := met t member
        rw [List.findIdx_append, List.findIdx_append, if_pos early, if_neg (Nat.not_lt.mpr late)]
        omega

theorem nodup_titles (entries : List Index) : (titles entries).Nodup := by
  refine (pairwise_titles entries).imp fun {t u} before => ?_
  rintro rfl
  exact Nat.lt_irrefl _ before

theorem takes_iff {g : IndexGroup} {key : Key} {kind : IndexKind} :
    g.takes key kind = true ↔ g.key = key ∧ g.kind = kind := by
  simp [takes]

theorem takes_titled {columns : IndexTitle → List Value} {t : IndexTitle} {i : Index} :
    (titled columns t).takes (.text i.title.keyName) i.kind = true ↔ t = i.title := by
  rw [takes_iff]
  obtain ⟨keyName, kind⟩ := t
  simp [titled, Index.title]

/-- Where no group is of the index of an entry, the entry starts a group. -/
theorem place_of_not_mem {i : Index} (named : i.keyName.isText = true)
    {columns : IndexTitle → List Value} {ts : List IndexTitle} (new : i.title ∉ ts) :
    place (.text i.title.keyName) i (ts.map (titled columns)) =
      ts.map (titled columns) ++ [titled (fun _ => [i.column]) i.title] := by
  induction ts with
  | nil =>
    have called : i.keyName = .str i.title.keyName := Value.eq_str_string named
    simp only [List.map_nil, place, titled, List.nil_append, ← called]
    rfl
  | cons t rest ih =>
    obtain ⟨other, new⟩ := not_or.mp (mt List.mem_cons.mpr new)
    have passed : ¬ (titled columns t).takes (.text i.title.keyName) i.kind = true := by
      rw [takes_titled]
      exact Ne.symm other
    rw [List.map_cons, place, if_neg passed, ih new]
    rfl

/-- An entry goes to the group of its index, and the other groups stay as they are. -/
theorem place_of_mem {i : Index} {columns next : IndexTitle → List Value}
    (own : next i.title = columns i.title ++ [i.column])
    (others : ∀ t, t ≠ i.title → next t = columns t) {ts : List IndexTitle} (nodup : ts.Nodup)
    (old : i.title ∈ ts) :
    place (.text i.title.keyName) i (ts.map (titled columns)) = ts.map (titled next) := by
  induction ts with
  | nil => exact absurd old List.not_mem_nil
  | cons t rest ih =>
    obtain ⟨once, nodup⟩ := List.nodup_cons.mp nodup
    rw [List.map_cons, List.map_cons, place]
    by_cases same : t = i.title
    · have kept : rest.map (titled columns) = rest.map (titled next) := by
        apply List.map_congr_left
        intro u member
        have other : u ≠ i.title := by
          rintro rfl
          exact once (same ▸ member)
        rw [titled, titled, others u other]
      rw [if_pos (takes_titled.mpr same), kept, same]
      simp only [titled, own]
    · have later : i.title ∈ rest := (List.mem_cons.mp old).resolve_left (Ne.symm same)
      rw [if_neg (mt takes_titled.mp same), ih nodup later]
      simp only [titled, others t same]

/-- Placing one more entry makes the groups those of one entry more. -/
theorem place_listed (entries : List Index) {i : Index} (named : i.keyName.isText = true)
    (secondary : i.isPrimary = false) :
    place (.text i.title.keyName) i (listed entries) = listed (entries ++ [i]) := by
  have own : columnsIn (entries ++ [i]) i.title = columnsIn entries i.title ++ [i.column] := by
    rw [columnsIn_concat, if_pos (Index.belongsTo_iff.mpr ⟨secondary, rfl⟩)]
  have others : ∀ t, t ≠ i.title → columnsIn (entries ++ [i]) t = columnsIn entries t := by
    intro t other
    rw [columnsIn_concat, if_neg]
    intro belongs
    exact other (Index.belongsTo_iff.mp belongs).2.symm
  unfold listed
  rw [titles_concat entries secondary]
  by_cases old : i.title ∈ titles entries
  · rw [if_pos old]
    exact place_of_mem own others (nodup_titles entries) old
  · have kept : (titles entries).map (titled (columnsIn entries)) =
        (titles entries).map (titled (columnsIn (entries ++ [i]))) := by
      apply List.map_congr_left
      intro t member
      have other : t ≠ i.title := by
        rintro rfl
        exact old member
      rw [titled, titled, others t other]
    have started : titled (fun _ => [i.column]) i.title =
        titled (columnsIn (entries ++ [i])) i.title := by
      rw [titled, titled, own, columnsIn_eq_nil old, List.nil_append]
    rw [if_neg old, place_of_not_mem named old, List.map_append, List.map_singleton, kept, started]

/-- Entries of the primary key are in no group. -/
theorem listed_concat_of_primary (entries : List Index) {i : Index} (primary : i.isPrimary = true) :
    listed (entries ++ [i]) = listed entries := by
  have unchanged : columnsIn (entries ++ [i]) = columnsIn entries := by
    funext t
    rw [columnsIn_concat, if_neg]
    simp [Index.belongsTo, primary]
  rw [listed, listed, unchanged, titles_concat_of_primary entries primary]

/-- Collecting entries one after the other makes the groups of all entries. -/
theorem collect_listed (done : List Index) {rest : List Index}
    (named : ∀ i ∈ rest, i.keyName.isText = true) :
    collect (listed done) rest = .ok (listed (done ++ rest)) := by
  induction rest generalizing done with
  | nil => rw [List.append_nil]; rfl
  | cons i rest ih =>
    obtain ⟨first, named⟩ := List.forall_mem_cons.mp named
    have next := ih (done ++ [i]) named
    rw [List.append_assoc, List.singleton_append] at next
    cases primary : i.isPrimary with
    | true =>
      rw [collect_cons_of_primary primary, ← listed_concat_of_primary done primary]
      exact next
    | false =>
      rw [← place_listed done first primary] at next
      refine (collect_cons_eq_ok_iff primary).mpr ⟨.text i.title.keyName, ?_, next⟩
      rw [Value.eq_str_string first]
      rfl

end IndexGroup

namespace Schema

/-- The indexes of a schema other than the primary key, in the order of their first entries. -/
def indexTitles (s : Schema) : List IndexTitle :=
  IndexGroup.titles s.indexes

/-- The entries of an index, in order. -/
def entriesOf (s : Schema) (t : IndexTitle) : List Index :=
  s.indexes.filter (·.belongsTo t)

/-- The entries of an index with their numbers among all entries, in order. -/
def membersOf (s : Schema) (t : IndexTitle) : List (Index × Nat) :=
  s.indexes.zipIdx.filter fun m => m.1.belongsTo t

/-- The clauses that one would write for the indexes: one for each, with the columns of its
entries. -/
def compositeClauses (s : Schema) : List String :=
  s.indexTitles.map fun t => t.clause ((s.entriesOf t).map (·.column.string))

/-- The entry with a number stands in a clause at a position. -/
def StandsIn (s : Schema) (number clause position : Nat) : Prop :=
  ∃ t i, s.indexTitles[clause]? = some t ∧ (s.membersOf t)[position]? = some (i, number)

variable {s : Schema}

theorem map_fst_membersOf (s : Schema) (t : IndexTitle) :
    (s.membersOf t).map Prod.fst = s.entriesOf t := by
  have same := List.filter_map (f := Prod.fst) (p := (·.belongsTo t)) (l := s.indexes.zipIdx)
  rw [List.zipIdx_map_fst] at same
  exact same.symm

theorem nodup_membersOf (s : Schema) (t : IndexTitle) : (s.membersOf t).Nodup :=
  ((List.nodup_zipIdx_map_snd s.indexes).of_map Prod.snd).filter _

theorem mem_membersOf {t : IndexTitle} {i : Index} {n : Nat} :
    (i, n) ∈ s.membersOf t ↔ s.indexes[n]? = some i ∧ i.isPrimary = false ∧ i.title = t := by
  rw [membersOf, List.mem_filter, List.mem_zipIdx_iff_getElem?, Index.belongsTo_iff]

theorem mem_indexTitles {t : IndexTitle} : t ∈ s.indexTitles ↔ s.entriesOf t ≠ [] := by
  rw [indexTitles, IndexGroup.mem_titles, entriesOf, Ne, List.filter_eq_nil_iff]
  simp [Index.belongsTo_iff]

/-- An entry stands only in the clause of the index it belongs to. -/
theorem StandsIn.title {n clause position : Nat} {i : Index} (entry : s.indexes[n]? = some i)
    (stands : s.StandsIn n clause position) :
    i.isPrimary = false ∧ s.indexTitles[clause]? = some i.title ∧
      (s.membersOf i.title)[position]? = some (i, n) := by
  obtain ⟨t, j, titled, placed⟩ := stands
  obtain ⟨listed, secondary, rfl⟩ := mem_membersOf.mp (List.mem_of_getElem? placed)
  rw [entry, Option.some.injEq] at listed
  subst listed
  exact ⟨secondary, titled, placed⟩

/-- Every entry outside the primary key stands in one clause at one position. -/
theorem existsUnique_standsIn {n : Nat} {i : Index} (entry : s.indexes[n]? = some i)
    (secondary : i.isPrimary = false) : ∃! place : Nat × Nat, s.StandsIn n place.1 place.2 := by
  have listed : i.title ∈ s.indexTitles :=
    IndexGroup.mem_titles.mpr ⟨i, List.mem_of_getElem? entry, secondary, rfl⟩
  obtain ⟨clause, titled⟩ := List.mem_iff_getElem?.mp listed
  have member : (i, n) ∈ s.membersOf i.title := mem_membersOf.mpr ⟨entry, secondary, rfl⟩
  obtain ⟨position, placed⟩ := List.mem_iff_getElem?.mp member
  refine ⟨(clause, position), ⟨i.title, i, titled, placed⟩, ?_⟩
  rintro ⟨clause', position'⟩ stands
  obtain ⟨-, titled', placed'⟩ := StandsIn.title entry stands
  have sameClause : clause' = clause :=
    (List.getElem?_inj (List.getElem?_eq_some_iff.mp titled').1 (IndexGroup.nodup_titles _)).mp
      (titled'.trans titled.symm)
  have samePosition : position' = position :=
    (List.getElem?_inj (List.getElem?_eq_some_iff.mp placed').1 (s.nodup_membersOf _)).mp
      (placed'.trans placed.symm)
  rw [sameClause, samePosition]

theorem indexGroups_eq_listed (textual : ∀ i ∈ s.indexes, i.IsTextual) :
    s.indexGroups = .ok (IndexGroup.listed s.indexes) :=
  IndexGroup.collect_listed [] fun i member => (textual i member).keyName

/-- The clause of a group of texts. -/
theorem clause_titled (textual : ∀ i ∈ s.indexes, i.IsTextual) {t : IndexTitle}
    (listed : t ∈ s.indexTitles) :
    (IndexGroup.titled (IndexGroup.columnsIn s.indexes) t).clause =
      .ok (t.clause ((s.entriesOf t).map (·.column.string))) := by
  have texts : IndexGroup.columnsIn s.indexes t =
      ((s.entriesOf t).map (·.column.string)).map .str := by
    rw [IndexGroup.columnsIn, List.map_map]
    apply List.map_congr_left
    intro i member
    exact Value.eq_str_string (textual i (List.mem_of_mem_filter member)).column
  have outlined : (IndexGroup.titled (IndexGroup.columnsIn s.indexes) t).outline =
      .ok ⟨t.kind, t.keyName, (s.entriesOf t).map (·.column.string)⟩ :=
    IndexGroup.outline_eq_ok_iff.mpr ⟨rfl, rfl, texts⟩
  obtain ⟨i, -, secondary, rfl⟩ := IndexGroup.mem_titles.mp listed
  have opened : Ddl.kindText i.title.kind ++ "INDEX " = i.title.opening := by
    have other : i.title.kind ≠ .primary := of_decide_eq_false secondary
    unfold IndexTitle.opening
    cases kind : i.title.kind with
    | primary => exact absurd kind other
    | plain | unique | fulltext => rfl
  rw [IndexGroup.clause_eq, outlined]
  change Except.ok _ = Except.ok _
  rw [Ddl.IndexOutline.clause, IndexTitle.clause, opened]

theorem indexClauses_eq (textual : ∀ i ∈ s.indexes, i.IsTextual) :
    s.indexClauses = .ok s.compositeClauses := by
  rw [indexClauses, indexGroups_eq_listed textual, Result.ok_bind, IndexGroup.listed,
    List.mapM_map]
  exact Result.mapM_eq_ok_map fun t listed => clause_titled textual listed

/-- The clause of an index depends on its entries alone. -/
theorem clause_mem_compositeClauses {u : Schema} {t : IndexTitle} (listed : t ∈ s.indexTitles)
    (same : u.entriesOf t = s.entriesOf t) :
    t.clause ((s.entriesOf t).map (·.column.string)) ∈ u.compositeClauses := by
  rw [mem_indexTitles, ← same, ← mem_indexTitles] at listed
  rw [← same]
  exact List.mem_map_of_mem listed

/-- Where all indexes have the same entries, the clauses differ in their order at most. -/
theorem compositeClauses_perm {u : Schema} (same : ∀ t, u.entriesOf t = s.entriesOf t) :
    s.compositeClauses.Perm u.compositeClauses := by
  have titles : s.indexTitles.Perm u.indexTitles := by
    refine (List.perm_ext_iff_of_nodup (IndexGroup.nodup_titles _)
      (IndexGroup.nodup_titles _)).mpr fun t => ?_
    change t ∈ s.indexTitles ↔ t ∈ u.indexTitles
    rw [mem_indexTitles, mem_indexTitles, same]
  have agree : u.compositeClauses =
      u.indexTitles.map fun t => t.clause ((s.entriesOf t).map (·.column.string)) := by
    simp only [compositeClauses, same]
  rw [agree]
  exact titles.map _

/-- The clauses of the indexes of a schema whose names are texts are one for each name and kind
among the entries outside the primary key, in the order in which these are first met, and each has
the columns of the entries with this name and this kind, in their order. So every such entry stands
in one clause at one position, and those of the primary key stand in none. An index with the same
entries in another schema has the same clause there, and if that is so for all indexes, the clauses
differ in their order at most, however the entries are mixed. -/
theorem indexClauses_eq_composites (textual : ∀ i ∈ s.indexes, i.IsTextual) :
    s.indexClauses = .ok s.compositeClauses ∧
      (s.indexTitles.Pairwise fun t u =>
        s.indexes.findIdx (·.belongsTo t) < s.indexes.findIdx (·.belongsTo u)) ∧
      (∀ t, t ∈ s.indexTitles ↔ ∃ i ∈ s.indexes, i.isPrimary = false ∧ i.title = t) ∧
      (∀ t, (s.membersOf t).map Prod.fst = s.entriesOf t) ∧
      (∀ n i, s.indexes[n]? = some i →
        (i.isPrimary = false → ∃! place : Nat × Nat, s.StandsIn n place.1 place.2) ∧
          (i.isPrimary = true → ∀ clause position, ¬ s.StandsIn n clause position)) ∧
      ∀ u : Schema, (∀ i ∈ u.indexes, i.IsTextual) →
        ∃ others, u.indexClauses = .ok others ∧
          (∀ t ∈ s.indexTitles, u.entriesOf t = s.entriesOf t →
            t.clause ((s.entriesOf t).map (·.column.string)) ∈ others) ∧
          ((∀ t, u.entriesOf t = s.entriesOf t) → s.compositeClauses.Perm others) := by
  refine ⟨indexClauses_eq textual, IndexGroup.pairwise_titles s.indexes,
    fun t => IndexGroup.mem_titles, s.map_fst_membersOf, ?_, ?_⟩
  · intro n i entry
    refine ⟨existsUnique_standsIn entry, fun primary clause position stands => ?_⟩
    obtain ⟨secondary, -, -⟩ := StandsIn.title entry stands
    rw [primary] at secondary
    cases secondary
  · intro u textual'
    exact ⟨u.compositeClauses, indexClauses_eq textual',
      fun t listed same => clause_mem_compositeClauses listed same, compositeClauses_perm⟩

/-- A table with two indexes of one name and different kinds, mixed with a third one and the
primary key. -/
def mixedIndexes : Schema :=
  { baseName := .str "t"
    indexes :=
      [⟨.str "k", .str "a", .unique⟩, ⟨.str "m", .str "b", .fulltext⟩, ⟨.str "k", .str "c", .plain⟩,
        ⟨.str "k", .str "a", .primary⟩, ⟨.str "k", .str "d", .unique⟩] }

theorem indexClauses_mixedIndexes :
    (∀ i ∈ mixedIndexes.indexes, i.IsTextual) ∧
      mixedIndexes.indexClauses =
        .ok ["UNIQUE INDEX k (a, d)", "FULLTEXT INDEX m (b)", "INDEX k (c)"] := by
  have textual : ∀ i ∈ mixedIndexes.indexes, i.IsTextual := by
    simp only [mixedIndexes, List.forall_mem_cons]
    exact ⟨⟨rfl, rfl⟩, ⟨rfl, rfl⟩, ⟨rfl, rfl⟩, ⟨rfl, rfl⟩, ⟨rfl, rfl⟩, by simp⟩
  obtain ⟨written, -⟩ := indexClauses_eq_composites textual
  have composed : mixedIndexes.compositeClauses =
      ["UNIQUE INDEX k (a, d)", "FULLTEXT INDEX m (b)", "INDEX k (c)"] := by
    decide +kernel
  exact ⟨textual, composed ▸ written⟩

end Schema

end TableDdl
