/-
# Tenants of IAM principals

The mapping names principals exactly or by a prefix, written with a star at its
end. An exact entry wins. Among the prefixes that match, the first one in the
order of the file wins, so the order is visible exactly where one prefix extends
another and the two grants differ.
-/

import BedrockGateway.Pipeline
import Mathlib.Data.Set.Finite.Basic
import Mathlib.Data.List.Perm.Basic

namespace BedrockGateway

open Foundation Py

/-- An entry of `iam_principals`. -/
structure IamEntry where
  tenantId : String
  applicationId : String
  roles : Option (List String) := none
  deriving DecidableEq

/-- The grant made of an entry. -/
def IamEntry.grant (entry : IamEntry) : IamPrincipalGrant :=
  ⟨entry.tenantId, entry.applicationId, entry.roles.getD []⟩

/-- `arn_pattern.endswith("*")` -/
def isWildcard (arnPattern : String) : Bool := arnPattern.toList.getLast? = some '*'

/-- `arn_pattern[:-1]` -/
def wildcardPrefix (arnPattern : String) : String := String.ofList arnPattern.toList.dropLast

/-- `FileIamTenantResolver` -/
structure FileIamTenantResolver where
  exact : Dict String IamPrincipalGrant := Dict.empty
  prefixes : Dict String IamPrincipalGrant := Dict.empty

namespace FileIamTenantResolver

/-- File one entry of the mapping. -/
def add (resolver : FileIamTenantResolver) (entry : String × IamEntry) : FileIamTenantResolver :=
  if isWildcard entry.1 then
    { resolver with prefixes := resolver.prefixes.set (wildcardPrefix entry.1) entry.2.grant }
  else { resolver with exact := resolver.exact.set entry.1 entry.2.grant }

/-- The loop of `__init__`, over the entries in the order of the file. -/
def load (principals : List (String × IamEntry)) : FileIamTenantResolver :=
  principals.foldl add {}

/-- `resolve` -/
def resolve (resolver : FileIamTenantResolver) (principalArn : String) :
    Except Exn IamPrincipalGrant :=
  match resolver.exact.get? principalArn with
  | some grant => .ok grant
  | none =>
      match resolver.prefixes.entries.find? fun entry =>
          entry.1.toList.isPrefixOf principalArn.toList with
      | some entry => .ok entry.2
      | none => .error (.auth s!"no tenant mapping for IAM principal '{principalArn}'"
          "UNKNOWN_IAM_PRINCIPAL")

/-! ## What is loaded -/

theorem wildcard_eq {arnPattern : String} (h : isWildcard arnPattern = true) :
    arnPattern.toList = (wildcardPrefix arnPattern).toList ++ ['*'] := by
  have hlast : arnPattern.toList.getLast? = some '*' := by simpa [isWildcard] using h
  rw [wildcardPrefix, String.toList_ofList]
  exact (List.dropLast_append_getLast? '*' hlast).symm

/-- A wildcard is known by its prefix. -/
theorem wildcardPrefix_inj {first second : String} (hfirst : isWildcard first = true)
    (hsecond : isWildcard second = true) (h : wildcardPrefix first = wildcardPrefix second) :
    first = second := by
  apply String.toList_inj.mp
  rw [wildcard_eq hfirst, wildcard_eq hsecond, h]

/-- The entries for exact principals, as they are filed. -/
def exactEntries (principals : List (String × IamEntry)) : List (String × IamPrincipalGrant) :=
  (principals.filter fun entry => !isWildcard entry.1).map fun entry => (entry.1, entry.2.grant)

/-- The entries for prefixes, as they are filed. -/
def prefixEntries (principals : List (String × IamEntry)) : List (String × IamPrincipalGrant) :=
  (principals.filter fun entry => isWildcard entry.1).map fun entry =>
    (wildcardPrefix entry.1, entry.2.grant)

theorem mem_exactEntries {principals : List (String × IamEntry)} {arn : String}
    (h : arn ∈ (exactEntries principals).map Prod.fst) : arn ∈ principals.map Prod.fst := by
  simp only [exactEntries, List.map_map, List.mem_map, List.mem_filter, Function.comp_apply] at h
  obtain ⟨entry, ⟨hmem, _⟩, rfl⟩ := h
  exact List.mem_map_of_mem hmem

theorem mem_prefixEntries {principals : List (String × IamEntry)} {arnPattern : String}
    (hwild : isWildcard arnPattern = true)
    (h : wildcardPrefix arnPattern ∈ (prefixEntries principals).map Prod.fst) :
    arnPattern ∈ principals.map Prod.fst := by
  simp only [prefixEntries, List.map_map, List.mem_map, List.mem_filter, Function.comp_apply] at h
  obtain ⟨entry, ⟨hmem, hentry⟩, heq⟩ := h
  rw [← wildcardPrefix_inj hentry hwild heq]
  exact List.mem_map_of_mem hmem

/-- **Loading keeps the order of the file**, separately for the two kinds of entries. -/
theorem load_entries {principals : List (String × IamEntry)}
    (hdistinct : (principals.map Prod.fst).Nodup) :
    (load principals).exact.entries = exactEntries principals ∧
      (load principals).prefixes.entries = prefixEntries principals := by
  induction principals using List.reverseRecOn with
  | nil => exact ⟨rfl, rfl⟩
  | append_singleton principals entry ih =>
      rw [List.map_append, List.nodup_append] at hdistinct
      have hfresh : entry.1 ∉ principals.map Prod.fst := fun hmem =>
        hdistinct.2.2 _ hmem entry.1 (by simp) rfl
      obtain ⟨hexact, hprefixes⟩ := ih hdistinct.1
      have hload : load (principals ++ [entry]) = (load principals).add entry := by
        simp [load, List.foldl_append]
      rw [hload, add]
      by_cases hwild : isWildcard entry.1 = true
      · have hnew : wildcardPrefix entry.1 ∉ (load principals).prefixes.keys := by
          rw [Dict.keys, hprefixes]
          exact fun hmem => hfresh (mem_prefixEntries hwild hmem)
        rw [if_pos hwild]
        constructor
        · simp [hexact, exactEntries, hwild]
        · simp [Dict.entries_set_of_not_mem _ hnew, hprefixes, prefixEntries, hwild]
      · have hnew : entry.1 ∉ (load principals).exact.keys := by
          rw [Dict.keys, hexact]
          exact fun hmem => hfresh (mem_exactEntries hmem)
        rw [if_neg hwild]
        constructor
        · simp [Dict.entries_set_of_not_mem _ hnew, hexact, exactEntries, hwild]
        · simp [hprefixes, prefixEntries, hwild]

/-! ## The order of the file -/

/-- Where all matches carry the same value, it does not matter which one is first. -/
theorem find?_map_eq_of_perm {α β : Type} {first second : List α} (hperm : first.Perm second)
    (p : α → Bool) (f : α → β)
    (hagree : ∀ x ∈ first, ∀ y ∈ first, p x = true → p y = true → f x = f y) :
    (first.find? p).map f = (second.find? p).map f := by
  cases hfirst : first.find? p with
  | none =>
      have hnone : second.find? p = none := by
        rw [List.find?_eq_none] at hfirst ⊢
        exact fun x hmem => hfirst x (hperm.mem_iff.mpr hmem)
      rw [hnone]
  | some x =>
      have hmem := List.mem_of_find?_eq_some hfirst
      have hx := List.find?_some hfirst
      cases hsecond : second.find? p with
      | none => exact absurd hx (List.find?_eq_none.mp hsecond x (hperm.mem_iff.mp hmem))
      | some y =>
          have hmem' := hperm.mem_iff.mpr (List.mem_of_find?_eq_some hsecond)
          exact congrArg some (hagree x hmem y hmem' hx (List.find?_some hsecond))

/-- Resolution, without the entry that was found. -/
theorem resolve_eq (resolver : FileIamTenantResolver) (principalArn : String) :
    resolver.resolve principalArn =
      match (resolver.exact.get? principalArn).or
        ((resolver.prefixes.entries.find? fun entry =>
          entry.1.toList.isPrefixOf principalArn.toList).map Prod.snd) with
      | some grant => .ok grant
      | none => .error (.auth s!"no tenant mapping for IAM principal '{principalArn}'"
          "UNKNOWN_IAM_PRINCIPAL") := by
  unfold resolve
  cases resolver.exact.get? principalArn with
  | some grant => rfl
  | none =>
      cases resolver.prefixes.entries.find? fun entry =>
        entry.1.toList.isPrefixOf principalArn.toList with
      | some entry => rfl
      | none => rfl

/-- A principal has a grant, or is unknown. -/
theorem resolve_cases (resolver : FileIamTenantResolver) (principalArn : String) :
    (∃ grant, resolver.resolve principalArn = .ok grant) ∨
      ∃ message, resolver.resolve principalArn =
        .error (.auth message "UNKNOWN_IAM_PRINCIPAL") := by
  rw [resolve_eq]
  split
  · exact .inl ⟨_, rfl⟩
  · exact .inr ⟨_, rfl⟩

/-- No prefix extends another one with a different grant. -/
def Coherent (principals : List (String × IamEntry)) : Prop :=
  ∀ outer ∈ principals, ∀ inner ∈ principals,
    isWildcard outer.1 = true → isWildcard inner.1 = true →
    (wildcardPrefix outer.1).toList <+: (wildcardPrefix inner.1).toList →
    outer.2.grant = inner.2.grant

/-- In a coherent mapping, all prefixes of one principal carry the same grant. -/
theorem Coherent.prefixEntries_agree {principals : List (String × IamEntry)}
    (hcoherent : Coherent principals) {principalArn : String} :
    ∀ x ∈ prefixEntries principals, ∀ y ∈ prefixEntries principals,
      x.1.toList.isPrefixOf principalArn.toList = true →
      y.1.toList.isPrefixOf principalArn.toList = true → x.2 = y.2 := by
  intro x hx y hy hmatch hmatch'
  obtain ⟨first, hfirst, rfl⟩ := List.mem_map.mp hx
  obtain ⟨second, hsecond, rfl⟩ := List.mem_map.mp hy
  obtain ⟨hmem, hwild⟩ := List.mem_filter.mp hfirst
  obtain ⟨hmem', hwild'⟩ := List.mem_filter.mp hsecond
  rw [List.isPrefixOf_iff_prefix] at hmatch hmatch'
  -- two prefixes of one word: one extends the other
  rcases List.prefix_or_prefix_of_prefix hmatch hmatch' with hnested | hnested
  · exact hcoherent first hmem second hmem' hwild hwild' hnested
  · exact (hcoherent second hmem' first hmem hwild' hwild hnested).symm

/-- **In a coherent mapping the order does not show.** -/
theorem Coherent.resolve_perm {principals shuffled : List (String × IamEntry)}
    (hdistinct : (principals.map Prod.fst).Nodup) (hcoherent : Coherent principals)
    (hperm : principals.Perm shuffled) (principalArn : String) :
    (load shuffled).resolve principalArn = (load principals).resolve principalArn := by
  have hdistinct' : (shuffled.map Prod.fst).Nodup := (hperm.map Prod.fst).nodup_iff.mp hdistinct
  obtain ⟨hexact, hprefixes⟩ := load_entries hdistinct
  obtain ⟨hexact', hprefixes'⟩ := load_entries hdistinct'
  have hlookup : (load principals).exact.get? principalArn =
      (load shuffled).exact.get? principalArn := by
    apply Dict.get?_eq_of_perm
    rw [hexact, hexact']
    exact (hperm.filter _).map _
  have hscan := find?_map_eq_of_perm ((hperm.filter _).map _)
    (fun entry : String × IamPrincipalGrant => entry.1.toList.isPrefixOf principalArn.toList)
    Prod.snd hcoherent.prefixEntries_agree
  rw [resolve_eq, resolve_eq, hlookup, hprefixes, hprefixes']
  change _ = (match Option.or _ (Option.map Prod.snd (List.find? _ (prefixEntries principals))) with
    | some grant => _
    | none => _)
  unfold prefixEntries
  rw [hscan]

/-- The entry at the head of the file decides for the principals under its prefix that
have no entry of their own. -/
theorem resolve_head {entry : String × IamEntry} {principals : List (String × IamEntry)}
    (hdistinct : ((entry :: principals).map Prod.fst).Nodup) (hwild : isWildcard entry.1 = true)
    {principalArn : String} (hmatch : (wildcardPrefix entry.1).toList <+: principalArn.toList)
    (hfree : principalArn ∉ (entry :: principals).map Prod.fst) :
    (load (entry :: principals)).resolve principalArn = .ok entry.2.grant := by
  obtain ⟨hexact, hprefixes⟩ := load_entries hdistinct
  have hmiss : (load (entry :: principals)).exact.get? principalArn = none := by
    cases hget : (load (entry :: principals)).exact.get? principalArn with
    | none => rfl
    | some grant =>
        have hmem := Dict.mem_entries_of_get? hget
        rw [hexact] at hmem
        exact absurd (mem_exactEntries (List.mem_map_of_mem hmem)) hfree
  have hfirst : prefixEntries (entry :: principals) =
      (wildcardPrefix entry.1, entry.2.grant) :: prefixEntries principals := by
    simp [prefixEntries, hwild]
  rw [resolve_eq, hmiss, hprefixes, hfirst, List.find?_cons, List.isPrefixOf_iff_prefix.mpr hmatch]
  rfl

/-- Under every prefix there is a principal without an entry of its own. -/
theorem exists_free (start : List Char) (taken : List String) :
    ∃ principalArn : String, start <+: principalArn.toList ∧ principalArn ∉ taken := by
  have hinjective : Function.Injective fun n : ℕ =>
      String.ofList (start ++ List.replicate n 'x') := by
    intro m n h
    have hlength := congrArg List.length (String.ofList_injective h)
    simpa using hlength
  obtain ⟨principalArn, ⟨n, rfl⟩, hfree⟩ :=
    (Set.infinite_range_of_injective hinjective).exists_notMem_finset taken.toFinset
  refine ⟨String.ofList (start ++ List.replicate n 'x'), ?_, by simpa using hfree⟩
  rw [String.toList_ofList]
  exact List.prefix_append _ _

/-- **When the order does not show**: every order of the entries resolves every principal
alike exactly when no prefix extends another one with a different grant. -/
theorem resolve_orderFree_iff {principals : List (String × IamEntry)}
    (hdistinct : (principals.map Prod.fst).Nodup) :
    (∀ shuffled, principals.Perm shuffled → ∀ principalArn,
      (load shuffled).resolve principalArn = (load principals).resolve principalArn) ↔
      Coherent principals := by
  constructor
  · intro hfree outer houter inner hinner hwild hwild' hnested
    obtain ⟨principalArn, hmatch, hunlisted⟩ :=
      exists_free (wildcardPrefix inner.1).toList (principals.map Prod.fst)
    -- whichever of the two comes first in the file decides
    have hfirst : ∀ entry ∈ principals, isWildcard entry.1 = true →
        (wildcardPrefix entry.1).toList <+: principalArn.toList →
        (load principals).resolve principalArn = .ok entry.2.grant := by
      intro entry hmem hentry hprefix
      have hperm := List.perm_cons_erase hmem
      have hkeys := hperm.map Prod.fst
      rw [← hfree _ hperm principalArn]
      apply resolve_head (hkeys.nodup_iff.mp hdistinct) hentry hprefix
      exact fun hmem' => hunlisted (hkeys.mem_iff.mpr hmem')
    have houter' := hfirst outer houter hwild (hnested.trans hmatch)
    have hinner' := hfirst inner hinner hwild' hmatch
    exact Except.ok.inj (houter'.symm.trans hinner')
  · intro hcoherent shuffled hperm principalArn
    exact hcoherent.resolve_perm hdistinct hperm principalArn

/-- A role with one session of its own, in either order: a coherent mapping. -/
theorem resolve_orderFree_iff_pinned :
    let pinned : List (String × IamEntry) :=
      [("role/a/*", ⟨"a", "app", some ["developer"]⟩), ("role/a/s", ⟨"b", "app", none⟩)]
    (∀ shuffled, pinned.Perm shuffled → ∀ principalArn,
      (load shuffled).resolve principalArn = (load pinned).resolve principalArn) ↔
      Coherent pinned :=
  resolve_orderFree_iff (by decide +kernel)

/-- All roles of an account for one tenant, one of them for another: the order of the
two entries decides whose caller it is. -/
theorem order_decides_tenant :
    ¬ ∀ principals : List (String × IamEntry), (principals.map Prod.fst).Nodup →
      ∀ shuffled, principals.Perm shuffled → ∀ principalArn,
        (load shuffled).resolve principalArn = (load principals).resolve principalArn := by
  intro hall
  have hswapped := hall
    [("arn:aws:sts::1:assumed-role/*", ⟨"a", "app", none⟩),
      ("arn:aws:sts::1:assumed-role/b/*", ⟨"b", "app", none⟩)]
    (by decide +kernel) _ (.swap _ _ _) "arn:aws:sts::1:assumed-role/b/session"
  exact absurd hswapped (by decide +kernel)

end FileIamTenantResolver

/-- **Whose caller it is**: behind the resolver, an IAM caller is let in as the tenant
of the entry that resolves its principal, or answered 403 for want of one. -/
theorem authenticateIam_resolved {resolver : FileIamTenantResolver} {principalArn : String}
    {accountId : Option String} {trace : List (Event Answer)} {outcome : Except Exn Identity}
    (h : Program.Exec (authenticateIam principalArn accountId).run trace outcome)
    (hresolved : ∀ event ∈ trace,
      event = ⟨.resolvePrincipal principalArn, resolver.resolve principalArn⟩) :
    (∃ grant, resolver.resolve principalArn = .ok grant ∧ outcome =
      .ok ⟨principalArn, grant.tenantId, grant.applicationId, grant.roles, "aws_iam", accountId⟩) ∨
    (∃ message, resolver.resolve principalArn = .error (.auth message "UNKNOWN_IAM_PRINCIPAL") ∧
      outcome = .error (.pipeline .forbidden "UNKNOWN_IAM_PRINCIPAL" message)) := by
  have hbody : ∀ {asked : List (Event Answer)} {inner : Except Exn IamPrincipalGrant},
      Program.Exec ((ask (.resolvePrincipal principalArn) >>= settle : Py IamPrincipalGrant)).run
        asked inner → asked = [⟨.resolvePrincipal principalArn, inner⟩] := by
    intro asked inner hran
    obtain ⟨answer, tail, rfl, hsettled⟩ := Program.exec_ask_iff.mp hran
    obtain ⟨rfl, rfl⟩ := exec_settle hsettled
    rfl
  have hasked : ∀ {asked rest : List (Event Answer)} {inner : Except Exn IamPrincipalGrant},
      trace = asked ++ rest → asked = [⟨.resolvePrincipal principalArn, inner⟩] →
      resolver.resolve principalArn = inner := by
    intro asked rest inner htrace heq
    have hevent := hresolved ⟨.resolvePrincipal principalArn, inner⟩ (by simp [htrace, heq])
    cases hevent
    rfl
  rcases Fallible.exec_bind_iff.mp h with
    ⟨exn, hraised, rfl⟩ | ⟨first, second, grant, rfl, hran, hend⟩
  · obtain ⟨inner, hinner, heq⟩ := exec_translate hraised
    have hresolve := hasked (List.append_nil trace).symm (hbody hinner)
    rcases resolver.resolve_cases principalArn with ⟨grant, hgrant⟩ | ⟨message, hunknown⟩
    · rw [← hresolve, hgrant] at heq
      cases heq
    · rw [← hresolve, hunknown] at heq
      cases heq
      exact .inr ⟨message, hunknown, rfl⟩
  · obtain ⟨rfl, rfl⟩ := Fallible.exec_pure_iff.mp hend
    exact .inl ⟨grant, hasked rfl (hbody (exec_translate_ok hran)), rfl⟩

end BedrockGateway
