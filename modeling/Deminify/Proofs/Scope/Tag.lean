import Deminify.Proofs.Scope.Account
import Deminify.Proofs.Scope.Respell

/-!
# Names at their sites

Where labels tell nodes apart, a node stands at one site only (`Deminify.Reaches.unique`). So a name
that is used or declared in a program means the same wherever its label is met: what has the label is
a name (`Deminify.ScopeTree.exists_name_of_named`), and if it is the name in a tag, or what such a
name is taken from, then it is one that counts as a name there
(`Deminify.ScopeTree.tagKept_renamed`).
-/

namespace Deminify

/-! ### Sites -/

theorem Reaches.mem_subtree {p q : Site} (h : Reaches p q) : q.node ∈ p.node.subtree := by
  induction h with
  | refl p => exact Tree.mem_subtree_self _
  | step hx _ ih => exact Tree.subtree_subset_of_mem_children (Tree.mem_children_of_mem_slots hx) ih

theorem Reaches.trans {p q r : Site} (h : Reaches p q) (h' : Reaches q r) : Reaches p r := by
  induction h with
  | refl p => exact h'
  | step hx _ ih => exact .step hx (ih h')

/-- Every node below a site stands somewhere. -/
theorem exists_reaches {p : Site} {t : Tree} (h : t ∈ p.node.subtree) : ∃ q, Reaches p q ∧ q.node = t := by
  induction hn : p.node.height using Nat.strongRecOn generalizing p with
  | _ n ih =>
    subst hn
    rcases Tree.mem_subtree.mp h with rfl | ⟨c, hc, hm⟩
    · exact ⟨p, .refl p, rfl⟩
    · obtain ⟨x, hx, rfl⟩ := List.mem_map.mp hc
      obtain ⟨q, hq, rfl⟩ :=
        @ih _ (Tree.height_lt_of_mem_children hc) (p.below x.1.key x.2) hm rfl
      exact ⟨q, .step hx hq, rfl⟩

/-- The labels of a node and of what is below it. -/
theorem labels_subtree_eq (t : Tree) : t.subtree.map Tree.label =
    t.label :: t.slots.flatMap fun x => x.2.subtree.map Tree.label := by
  rw [Tree.subtree_eq, List.map_cons, Tree.children, List.flatMap_map, List.map_flatMap]

theorem label_mem_of_step {p q : Site} {x : Slot × Tree} (hx : x ∈ p.node.slots)
    (hq : Reaches (p.below x.1.key x.2) q) :
    q.node.label ∈ p.node.slots.flatMap fun x => x.2.subtree.map Tree.label :=
  List.mem_flatMap.mpr ⟨x, hx, List.mem_map_of_mem hq.mem_subtree⟩

/-- **A node stands at one site only.** -/
theorem Reaches.unique {p q q' : Site} (hl : p.node.Labelled) (h : Reaches p q) (h' : Reaches p q')
    (he : q.node.label = q'.node.label) : q = q' := by
  have hnodup := hl
  rw [Tree.Labelled, labels_subtree_eq, List.nodup_cons, List.nodup_flatMap] at hnodup
  obtain ⟨hself, hbelow, hapart⟩ := hnodup
  cases h with
  | refl p =>
    cases h' with
    | refl p => rfl
    | step hx' hq' => exact absurd (he ▸ label_mem_of_step hx' hq') hself
  | @step _ _ slot child hx hq =>
    cases h' with
    | refl p => exact absurd (he ▸ label_mem_of_step hx hq) hself
    | @step _ _ slot' child' hx' hq' =>
      -- two different children have no label in common
      by_cases hsame : (slot, child) = (slot', child')
      · cases hsame
        exact Reaches.unique (p := p.below slot.key child) (hbelow _ hx) hq hq' he
      · have hsymm : Std.Symm (Function.onFun List.Disjoint fun x : Slot × Tree =>
            x.2.subtree.map Tree.label) := ⟨fun _ _ hd => hd.symm⟩
        have hd := hapart.forall hx hx' hsame
        exact absurd hd fun hd => hd (List.mem_map_of_mem hq.mem_subtree) (he ▸ List.mem_map_of_mem hq'.mem_subtree)
termination_by p.node.height
decreasing_by exact Tree.height_lt_of_mem_children (Tree.mem_children_of_mem_slots hx)

/-- What a field holds stands below. -/
theorem Reaches.field {p q : Site} (h : Reaches p q) (hw : q.node.WellFormed) {key : String}
    {kinds : String → Bool} (hs : Tree.fieldSort q.node.kind key = some (.node kinds)) :
    Reaches p (q.below key (q.node.get key)) := by
  have hmem : q.node.get key ∈ q.node.nodesAt key := by
    rw [Tree.nodesAt_of_is (Tree.holdsChildren_of_fieldSort hs) (hw.held hs)]
    exact List.mem_singleton_self _
  obtain ⟨slot, rfl, hslot⟩ := ScopeTree.mem_slots_of_mem_nodesAt hmem
  exact h.trans (.step hslot (.refl _))

/-! ### Names -/

/-- The label of the name that an event is about. -/
def Event.label? : Event → Option Nat
  | .use label _ _ _ => some label
  | .declares label _ _ _ => some label
  | .opens _ => none

theorem Site.name_of_mem_events {p : Site} {e : Event} {l : Nat} (h : e ∈ p.events)
    (hl : e.label? = some l) : p.node.label = l ∧
      (p.node.kind = "Identifier" ∨ p.node.kind = "JSXIdentifier") := by
  unfold Site.events at h
  dsimp only at h
  repeat' split at h
  all_goals simp_all [Event.label?]
  all_goals
    obtain ⟨frame, -, rfl⟩ := h
    cases hl

/-- What happens at a name in a tag: it counts as a name there. -/
theorem Site.tag_of_mem_events {p : Site} {e : Event} (hk : p.node.kind = "JSXIdentifier")
    (h : e ∈ p.events) :
    (p.role = .tag ∧ ScopeTree.isMarkupName ((p.node.get "name").str?.getD "") = false) ∨
      (p.role = .tagRoot ∧ (((p.node.get "name").str?.getD "") == "this") = false) := by
  simp only [Site.events, hk] at h
  split at h
  · split at h <;> simp_all
  · split at h <;> simp_all
  · cases h

namespace ScopeTree

/-- Whether the name with a label is used or declared in a program. -/
def Named (program : Tree) (l : Nat) : Prop := ∃ e, Happens program e ∧ e.label? = some l

theorem wellFormed_of_mem {program t : Tree} (hp : program.Is (· == "Program")) (ht : t ∈ program.subtree) :
    t.WellFormed := fun n hn => hp.2 n (Tree.subtree_subset ht hn)

theorem kind_of_kindOf {t : Tree} (hw : t.WellFormed) {kind : String}
    (h : t.kindOf (m := Except Failure) = .ok kind) : t.kind = kind := by
  rw [hw.kindOf_eq] at h
  exact Except.ok.inj h

/-- What has the label of a name is a name. -/
theorem exists_name_of_named {program : Tree} (hp : program.Is (· == "Program"))
    (hl : program.labels.Nodup) {r : Tree} (h : Named program r.label) (hr : r ∈ program.records) :
    ∃ x, r.get? "name" = some (.str x) := by
  obtain ⟨e, ⟨q, hq, he⟩, hlabel⟩ := h
  obtain ⟨hql, hk⟩ := Site.name_of_mem_events he hlabel
  obtain rfl := Tree.eq_of_label_eq hl hp.2.isObj hq.mem_subtree hr hql.symm
  have hw := wellFormed_of_mem hp hq.mem_subtree
  have hs : schema q.node.kind = some [("name", .text)] := by rcases hk with hk | hk <;> rw [hk] <;> rfl
  obtain ⟨value, hvalue, x, rfl⟩ := hw.field hs List.mem_cons_self
  exact ⟨x, hvalue⟩

/-- What is known of a name in a tag that is used. -/
theorem Named.tag {program : Tree} (hl : program.Labelled) {q : Site} (h : Named program q.node.label)
    (hq : Stands program q) (hk : q.node.kind = "JSXIdentifier") :
    (q.role = .tag ∧ isMarkupName ((q.node.get "name").str?.getD "") = false) ∨
      (q.role = .tagRoot ∧ (((q.node.get "name").str?.getD "") == "this") = false) := by
  obtain ⟨e, ⟨p, hp, he⟩, hlabel⟩ := h
  obtain ⟨hpl, -⟩ := Site.name_of_mem_events he hlabel
  obtain rfl := hp.unique hl hq hpl
  exact Site.tag_of_mem_events hk he

theorem roleAt_name_ne {q : Site} (h : isTag q.node) : q.roleAt "name" ≠ .tagRoot := by
  unfold Site.roleAt
  rcases h with h | h <;> split <;> simp [h, Site.roleByKind]

theorem roleAt_object_ne {q : Site} (h : q.node.kind = "JSXMemberExpression") :
    q.roleAt "object" ≠ .tag := by
  unfold Site.roleAt
  split <;> simp [h, Site.roleByKind]

/-- The innermost access stands where a name in a tag does. -/
theorem stands_innermostAccess {program : Tree} (hp : program.Is (· == "Program")) {fuel : Nat} {q : Site}
    (hq : Stands program q) (hk : q.node.kind = "JSXMemberExpression") {access : Tree}
    (h : innermostAccess fuel q.node = .ok access) :
    ∃ r, Stands program r ∧ r.node = access ∧ access.kind = "JSXMemberExpression" := by
  induction fuel generalizing q with
  | zero =>
    cases h
    exact ⟨q, hq, rfl, hk⟩
  | succ fuel ih =>
    have hw := wellFormed_of_mem hp hq.mem_subtree
    have hs : Tree.fieldSort q.node.kind "object" = some (.node isTagObjectKind) := by rw [hk]; rfl
    rw [innermostAccess, hw.field_eq hs, ok_bind, (hw.held hs).2.kindOf_eq, ok_bind] at h
    split at h
    · rename_i hm
      exact ih (hq.field hw hs) (beq_iff_eq.mp hm) h
    · cases h
      exact ⟨q, hq, rfl, hk⟩

/-- **Renaming keeps tags**, unless the new name is one of the markup and a tag consists of a name
that is renamed. -/
theorem tagKept_renamed {program : Tree} (hp : program.Is (· == "Program")) (hl : program.Labelled)
    {labels : List Nat} {name : String} (hlabels : ∀ l ∈ labels, Named program l)
    (hthis : name ≠ "this") (hmarkup : isMarkupName name = false ∨
      ∀ t ∈ program.subtree, isTag t → (t.get "name").label ∉ labels) :
    ∀ t ∈ program.subtree, isTag t → TagKept (Tree.renamed labels name) t := by
  intro t ht htag
  obtain ⟨q, hq, rfl⟩ := @exists_reaches (.root program) t ht
  have hw := wellFormed_of_mem hp hq.mem_subtree
  have hs : Tree.fieldSort q.node.kind "name" = some (.node isTagNameKind) := by
    rcases htag with htag | htag <;> rw [htag] <;> rfl
  have hname := hq.field hw hs
  have htext {n : Tree} (hn : n.WellFormed) (hk : n.kind = "JSXIdentifier") :=
    @Tree.WellFormed.textField_eq n "name" hn (by rw [hk]; rfl)
  -- a tag is a name or an access: the name itself can be renamed, and in an access the name that it begins with
  constructor
  · intro name' x hn hk hx
    rw [hw.field_eq hs] at hn
    cases hn
    have hwn := (hw.held hs).2
    have hkn := kind_of_kindOf hwn hk
    rw [htext hwn hkn] at hx
    cases hx
    unfold Tree.renamed
    split
    · rename_i hmem
      have hmem' : (q.node.get "name").label ∈ labels := by simpa using hmem
      have hnew := hmarkup.resolve_right fun hnone => hnone _ ht htag hmem'
      rcases (hlabels _ hmem').tag hl hname hkn with ⟨-, hold⟩ | ⟨hrole, -⟩
      · rw [hnew]
        exact hold.symm
      · exact absurd hrole (roleAt_name_ne htag)
    · rfl
  · intro name' access root x hn hk ha hr hkr hx
    rw [hw.field_eq hs] at hn
    cases hn
    have hkn := kind_of_kindOf (hw.held hs).2 hk
    obtain ⟨r, hrs, rfl, hka⟩ := stands_innermostAccess hp hname hkn ha
    have hwa := wellFormed_of_mem hp hrs.mem_subtree
    have hsa : Tree.fieldSort r.node.kind "object" = some (.node isTagObjectKind) := by rw [hka]; rfl
    rw [hwa.field_eq hsa] at hr
    cases hr
    have hroot := hrs.field hwa hsa
    have hwr := (hwa.held hsa).2
    have hkroot := kind_of_kindOf hwr hkr
    rw [htext hwr hkroot] at hx
    cases hx
    unfold Tree.renamed
    split
    · rename_i hmem
      have hmem' : (r.node.get "object").label ∈ labels := by simpa using hmem
      rcases (hlabels _ hmem').tag hl hroot hkroot with ⟨hrole, -⟩ | ⟨-, hold⟩
      · exact absurd hrole (roleAt_object_ne hka)
      · rw [beq_eq_false_iff_ne.mpr hthis]
        exact hold.symm
    · rfl

end ScopeTree

end Deminify
