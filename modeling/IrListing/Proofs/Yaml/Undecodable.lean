import IrListing.Yaml.Document

namespace IrListing

namespace Text

namespace Decoder

def begun (d : Decoder) : Nat := d.done.length + if d.pending.isSome then 1 else 0

theorem begun_of_pending {d : Decoder} {p : Pending} (h : d.pending = some p) :
    d.begun = d.done.length + 1 := by
  simp [begun, h]

@[simp] theorem length_chars (d : Decoder) : d.chars.length = d.done.length :=
  List.length_reverse

theorem begun_start_le (d : Decoder) (b : Nat) : (d.start b).begun ≤ d.done.length + 1 := by
  unfold start
  split
  · simp [begun]
  · split
    · simp [begun]
    · simp [begun]

theorem begun_feed_le (d : Decoder) (byte : UInt8) : (d.feed byte).begun ≤ d.begun + 1 := by
  unfold feed
  split
  · exact Nat.le_trans (d.begun_start_le _) (by simp [begun])
  · rename_i p pending
    dsimp only
    split
    · split
      · simp [begun, pending]
      · simp [begun, pending]
    · exact Nat.le_trans (begun_start_le _ _) (by simp [begun, pending])

theorem begun_foldl_feed_le (d : Decoder) (bytes : List UInt8) :
    (bytes.foldl feed d).begun ≤ d.begun + bytes.length := by
  induction bytes generalizing d with
  | nil => simp
  | cons byte bytes ih =>
    have := ih (d.feed byte)
    have := d.begun_feed_le byte
    simp only [List.foldl_cons, List.length_cons]
    omega

end Decoder

theorem length_of_mapM_id {cs : List (Option Char)} {t : Text} (h : cs.mapM id = some t) :
    t.length = cs.length := by
  induction cs generalizing t with
  | nil => simp_all
  | cons c cs ih =>
    simp only [List.mapM_cons, id, Option.bind_eq_bind, Option.bind_eq_some_iff, Option.pure_def,
      Option.some.injEq] at h
    obtain ⟨_, -, rest, hr, rfl⟩ := h
    simp [ih hr]

theorem length_unifyBreaks_go_le (t done : Text) :
    (unifyBreaks.go t done).length ≤ t.length + done.length := by
  fun_induction unifyBreaks.go t done with
  | case1 done => simp
  | case2 done t ih => simp only [List.length_cons] at ih ⊢; omega
  | case3 done t _ ih => simp only [List.length_cons] at ih ⊢; omega
  | case4 done c t _ _ ih => simp only [List.length_cons] at ih ⊢; omega

theorem length_unifyBreaks_le (t : Text) : (unifyBreaks t).length ≤ t.length :=
  length_unifyBreaks_go_le t []

theorem length_dropReturn_le (t : Text) : (dropReturn t).length ≤ t.length := by
  unfold dropReturn
  split
  · simp
  · exact Nat.le_refl _

end Text

namespace Yaml

open Text

theorem decodePieces_of_ofBytes? {bytes : List UInt8} (small : bytes.length ≤ pieceSize)
    (broken : ofBytes? bytes = none) :
    ∃ t, decodePieces {} bytes = (t, false) ∧ t.length < pieceSize := by
  have some_bytes : bytes ≠ [] := by
    rintro rfl
    cases broken
  have limit := Decoder.begun_foldl_feed_le {} bytes
  rw [decodePieces, if_neg some_bytes, List.take_of_length_le small, List.drop_of_length_le small]
  simp only [ofBytes?, decode] at broken
  cases decoded : (bytes.foldl Decoder.feed {}).chars.mapM id with
  | none => exact ⟨[], by simp [decoded], by decide⟩
  | some t =>
    cases pending : (bytes.foldl Decoder.feed {}).pending with
    | none => simp [pending, decoded] at broken
    | some p =>
      refine ⟨t, by simp [decoded, decodePieces, pending], ?_⟩
      -- The character that is still open has had a byte of its own.
      have length := length_of_mapM_id decoded
      have none_yet : ({} : Decoder).begun = 0 := rfl
      rw [Decoder.length_chars] at length
      rw [Decoder.begun_of_pending pending, none_yet] at limit
      omega

theorem ofBytes_of_ofBytes? {bytes : List UInt8} (small : bytes.length ≤ pieceSize)
    (broken : ofBytes? bytes = none) :
    Pages.ofBytes bytes = ⟨[], some (.fault .undecodable)⟩ := by
  obtain ⟨t, pieces, short⟩ := decodePieces_of_ofBytes? small broken
  have read_at_once : (unifyBreaks (dropReturn t)).length < 2 * pageSize := by
    have := length_unifyBreaks_le (dropReturn t)
    have := length_dropReturn_le t
    simp only [pieceSize, pageSize] at short ⊢
    omega
  have decoded : Pages.decoded bytes = ⟨[], some (.fault .undecodable)⟩ := by
    simp only [Pages.decoded, pieces, Pages.before, if_pos read_at_once]
  simp [Pages.ofBytes, decoded]

theorem ofPages_broken (p : Problem) : Token.ofPages ⟨[], some p⟩ = [.broken p] := by
  rfl

theorem read_of_ofBytes? {bytes : List UInt8} (small : bytes.length ≤ pieceSize)
    (broken : ofBytes? bytes = none) (depth : Nat) :
    read depth bytes = .error (.fault .undecodable) := by
  rw [read, ofBytes_of_ofBytes? small broken, ofPages_broken]
  rfl

end Yaml

end IrListing
