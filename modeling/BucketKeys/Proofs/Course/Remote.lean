import BucketKeys.Proofs.Issuance.Knowledge

/-!
A token service that tells the truth: an identity is given once, and a token is missing exactly when
it is not there.
-/

namespace BucketKeys.Issuance

open TokenApi

def absent? : Act → Option String
  | .revoked id (.error failure) => if failure.isNotFound then some id else none
  | _ => none

def ended? : Act → Option String
  | .revoked id (.ok ()) => some id
  | _ => none

structure Remote where
  used : List String
  live : List String
  known : ∀ id ∈ live, id ∈ used

namespace Remote

variable {remote next : Remote} {act : Act} {acts : List Act}

/-- An act is no lie. -/
structure Allows (remote : Remote) (act : Act) : Prop where
  fresh : ∀ token ∈ created? act, token.id ≠ "" ∧ token.id ∉ remote.used
  found : ∀ id ∈ found? act, id ∈ remote.live
  missing : ∀ id ∈ missing? act, id ∉ remote.live
  ended : ∀ id ∈ ended? act, id ∈ remote.live
  absent : ∀ id ∈ absent? act, id ∉ remote.live

instance (remote : Remote) (act : Act) : Decidable (remote.Allows act) :=
  decidable_of_iff ((∀ token ∈ created? act, token.id ≠ "" ∧ token.id ∉ remote.used) ∧
      (∀ id ∈ found? act, id ∈ remote.live) ∧ (∀ id ∈ missing? act, id ∉ remote.live) ∧
        (∀ id ∈ ended? act, id ∈ remote.live) ∧ ∀ id ∈ absent? act, id ∉ remote.live)
    ⟨fun h => ⟨h.1, h.2.1, h.2.2.1, h.2.2.2.1, h.2.2.2.2⟩,
      fun h => ⟨h.fresh, h.found, h.missing, h.ended, h.absent⟩⟩

def after (remote : Remote) (act : Act) : Remote where
  used := ((created? act).map (·.id)).toList ++ remote.used
  live := ((created? act).map (·.id)).toList ++ remote.live.filter (ended? act != some ·)
  known id member := by
    rcases List.mem_append.mp member with fresh | other
    · exact List.mem_append_left _ fresh
    · exact List.mem_append_right _ (remote.known id (List.mem_filter.mp other).1)

/-- Tokens come and go for other reasons, such as questions whose answers were lost. No identity is
given anew. -/
structure Drifts (remote next : Remote) : Prop where
  used : ∀ id ∈ remote.used, id ∈ next.used
  live : ∀ id ∈ next.live, id ∈ remote.used → id ∈ remote.live

theorem Drifts.refl (remote : Remote) : remote.Drifts remote :=
  ⟨fun _ hmember => hmember, fun _ hmember _ => hmember⟩

theorem Drifts.trans {last : Remote} (h₁ : remote.Drifts next) (h₂ : next.Drifts last) :
    remote.Drifts last where
  used id hused := h₂.used id (h₁.used id hused)
  live id hlive hused := h₁.live id (h₂.live id hlive (h₁.used id hused)) hused

/-- The tokens may be as they are after the acts, the last of them first. -/
def Truthful (remote : Remote) : List Act → Prop
  | [] => True
  | act :: before =>
      ∃ earlier : Remote, earlier.Truthful before ∧ earlier.Allows act ∧
        (earlier.after act).Drifts remote

theorem Allows.gone (hallowed : remote.Allows act) (hdrift : (remote.after act).Drifts next)
    {id : String} (hused : id ∈ remote.used) (hgone : id ∉ remote.live) : id ∉ next.live := by
  intro live
  rcases List.mem_append.mp (hdrift.live id live (List.mem_append_right _ hused)) with hfresh | hold
  · obtain ⟨token, hcreates, hsame⟩ := Option.map_eq_some_iff.mp (Option.mem_toList.mp hfresh)
    exact (hallowed.fresh token hcreates).2 (hsame ▸ hused)
  · exact hgone (List.mem_filter.mp hold).1

theorem Truthful.used_of_created (htruthful : remote.Truthful acts) {token : Token}
    (hmember : token ∈ created acts) : token.id ∈ remote.used := by
  induction acts generalizing remote with
  | nil => cases hmember
  | cons act before ih =>
      obtain ⟨earlier, htruthful, hallowed, hdrift⟩ := htruthful
      refine hdrift.used _ ?_
      rw [created_cons] at hmember
      rcases List.mem_append.mp hmember with hfresh | hknown
      · rw [Option.mem_toList] at hfresh
        exact List.mem_append_left _ (by simp [hfresh])
      · exact List.mem_append_right _ (ih htruthful hknown)

def along (remote : Remote) : List Act → Remote
  | [] => remote
  | act :: before => (remote.along before).after act

def Bears (remote : Remote) : List Act → Prop
  | [] => True
  | act :: before => (remote.along before).Allows act ∧ remote.Bears before

instance decidableBears (remote : Remote) : (acts : List Act) → Decidable (remote.Bears acts)
  | [] => .isTrue trivial
  | _ :: before => @instDecidableAnd _ _ _ (remote.decidableBears before)

theorem Truthful.along {acts before : List Act} (h : remote.Truthful before)
    (hbears : remote.Bears acts) : (remote.along acts).Truthful (acts ++ before) := by
  induction acts with
  | nil => exact h
  | cons act acts ih => exact ⟨remote.along acts, ih hbears.2, hbears.1, .refl _⟩

end Remote

end BucketKeys.Issuance
