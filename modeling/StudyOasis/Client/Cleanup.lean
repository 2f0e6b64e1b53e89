import StudyOasis.Client.Uploads

/-!
# Cleaning up by hand

`cleanExpiredUploads` and `cleanExpiredSessions` read what is stored by the accessors that leave
out what has expired, and then look for what has expired in what they have read.

* `clean_up_iff` : **when cleaning up removes and counts what has expired**: only when the clean-up
  on reading is turned off.
-/

namespace StudyOasis

namespace Client

/-! ### Cleaning a list -/

variable {α : Type*} {expired : α → Bool} {l : List α} {storage : LocalStorage} {now : ℤ}

/-- What has expired is taken out of a list and counted. -/
def Cleaned (expired : α → Bool) (before after : List α) (count : ℕ) : Prop :=
  count = before.countP expired ∧ after = before.filter fun x => !expired x

theorem cleaned_filter :
    Cleaned expired l (l.filter fun x => !expired x)
      (l.length - (l.filter fun x => !expired x).length) := by
  refine ⟨?_, rfl⟩
  rw [l.length_eq_length_filter_add expired, Nat.add_sub_cancel, List.countP_eq_length_filter]

/-- A list that stays as it is was clean. -/
theorem cleaned_self_iff : Cleaned expired l l 0 ↔ ∀ x ∈ l, expired x = false := by
  constructor
  · rintro ⟨hcount, -⟩ x hx
    exact Bool.eq_false_iff.2 (List.countP_eq_zero.1 hcount.symm x hx)
  · intro h
    refine ⟨(List.countP_eq_zero.2 fun x hx => ?_).symm,
      (List.filter_eq_self.2 fun x hx => ?_).symm⟩
    · exact Bool.eq_false_iff.1 (h x hx)
    · rw [h x hx, Bool.not_false]

/-- Nothing is left out on reading, and what is written reaches the storage. -/
def LocalStorage.Unfiltered (storage : LocalStorage) : Prop :=
  storage.available = true ∧ storage.full = false ∧
    (ConfigStorage.getConfig storage).enableAutoCleanup = false

instance (storage : LocalStorage) : Decidable storage.Unfiltered :=
  inferInstanceAs (Decidable (_ ∧ _ ∧ _))

/-- What both functions do with a stored list: the list after it and the number. -/
def cleanStored (storage : LocalStorage) (expired : α → Bool) (stored : List α) : List α × ℕ :=
  let read :=
    if storage.available then
      if (ConfigStorage.getConfig storage).enableAutoCleanup then stored.filter fun x => !expired x
      else stored
    else []
  let cleaned := read.filter fun x => !expired x
  if read.length ≠ cleaned.length then
    if storage.available && !storage.full then (cleaned, read.length - cleaned.length)
    else (stored, 0)
  else (stored, 0)

theorem UploadStorage.cleanExpiredUploads_eq (storage : LocalStorage) (now : ℤ) :
    ((cleanExpiredUploads storage now).1.uploads, (cleanExpiredUploads storage now).2) =
      cleanStored storage (fun r => isExpired now r.expiresAt) storage.uploads := by
  unfold cleanExpiredUploads cleanStored getUploadHistory cleanExpired setUploads
  dsimp only
  split_ifs <;> rfl

theorem ChatStorage.cleanExpiredSessions_eq (storage : LocalStorage) (now : ℤ) :
    ((cleanExpiredSessions storage now).1.sessions, (cleanExpiredSessions storage now).2) =
      cleanStored storage (fun s => isExpired now s.expiresAt) storage.sessions := by
  unfold cleanExpiredSessions cleanStored getAllSessions cleanExpired setSessions
  dsimp only
  split_ifs <;> rfl

/-- What is read without the clean-up is cleaned. -/
theorem cleanStored_of_unfiltered (h : storage.Unfiltered) :
    cleanStored storage expired l =
      (l.filter fun x => !expired x, l.length - (l.filter fun x => !expired x).length) := by
  obtain ⟨hav, hfull, hauto⟩ := h
  simp only [cleanStored, hav, hfull, hauto, Bool.not_false, Bool.and_self, if_true,
    Bool.false_eq_true, if_false]
  by_cases hlen : l.length = (l.filter fun x => !expired x).length
  · have hsame : (l.filter fun x => !expired x) = l :=
      List.filter_sublist.eq_of_length hlen.symm
    rw [if_neg (not_not_intro hlen), hsame, Nat.sub_self]
  · rw [if_pos hlen]

/-- What has been cleaned on reading is clean, and nothing is written. -/
theorem cleanStored_of_not_unfiltered (h : ¬ storage.Unfiltered) :
    cleanStored storage expired l = (l, 0) := by
  unfold cleanStored
  by_cases hav : storage.available = true
  · by_cases hauto : (ConfigStorage.getConfig storage).enableAutoCleanup = true
    · simp [hav, hauto, List.filter_filter]
    · have hfull : storage.full = true := by
        by_contra hfull
        exact h ⟨hav, Bool.eq_false_iff.2 hfull, Bool.eq_false_iff.2 hauto⟩
      simp [hfull]
  · simp [hav]

theorem cleaned_cleanStored_iff :
    Cleaned expired l (cleanStored storage expired l).1 (cleanStored storage expired l).2 ↔
      (∀ x ∈ l, expired x = false) ∨ storage.Unfiltered := by
  by_cases h : storage.Unfiltered
  · rw [cleanStored_of_unfiltered h]
    exact iff_of_true cleaned_filter (.inr h)
  · rw [cleanStored_of_not_unfiltered h, cleaned_self_iff, or_iff_left h]

/-! ### Cleaning up -/

/-- **When cleaning up by hand removes and counts what has expired**: when nothing has, or when the
clean-up on reading is turned off and the storage can be written. -/
theorem clean_up_iff (storage : LocalStorage) (now : ℤ) :
    (Cleaned (fun r : UploadRecord => isExpired now r.expiresAt) storage.uploads
        (UploadStorage.cleanExpiredUploads storage now).1.uploads
        (UploadStorage.cleanExpiredUploads storage now).2 ↔
      (∀ r ∈ storage.uploads, isExpired now r.expiresAt = false) ∨ storage.Unfiltered) ∧
    (Cleaned (fun s : ChatSession => isExpired now s.expiresAt) storage.sessions
        (ChatStorage.cleanExpiredSessions storage now).1.sessions
        (ChatStorage.cleanExpiredSessions storage now).2 ↔
      (∀ s ∈ storage.sessions, isExpired now s.expiresAt = false) ∨ storage.Unfiltered) := by
  have huploads := Prod.mk.inj (UploadStorage.cleanExpiredUploads_eq storage now)
  have hsessions := Prod.mk.inj (ChatStorage.cleanExpiredSessions_eq storage now)
  rw [huploads.1, huploads.2, hsessions.1, hsessions.2]
  exact ⟨cleaned_cleanStored_iff, cleaned_cleanStored_iff⟩

/-- **With the default configuration what has expired stays**, and none is counted. -/
theorem expired_upload_stays :
    let r : UploadRecord :=
      { id := js "old", filename := js "a.pdf", url := js "/a.pdf", uploadedAt := 0
        expiresAt := some 10 }
    let storage : LocalStorage := { uploads := [r] }
    isExpired 20 r.expiresAt = true ∧
      UploadStorage.cleanExpiredUploads storage 20 = (storage, 0) ∧
        ¬ Cleaned (fun r : UploadRecord => isExpired 20 r.expiresAt) storage.uploads
          (UploadStorage.cleanExpiredUploads storage 20).1.uploads
          (UploadStorage.cleanExpiredUploads storage 20).2 := by
  refine ⟨by decide, by decide, fun h => ?_⟩
  exact absurd h.1 (by decide)

end Client

end StudyOasis
