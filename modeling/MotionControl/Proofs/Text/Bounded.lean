import Mathlib.Data.String.Basic
import MotionControl.Text.Bounded

/-!
# What a bounded text takes

A bounded text never exceeds its capacity, takes characters in the order in which they are given,
and takes all of them if they fit.
-/

set_option autoImplicit false
set_option relaxedAutoImplicit false

namespace MotionControl

theorem utf8Len_fitting_le (room : Nat) (text : List Char) :
    String.utf8Len (fitting room text) ≤ room := by
  induction text generalizing room with
  | nil => exact Nat.zero_le room
  | cons letter text ih =>
    rw [fitting]
    split
    next hfits =>
      have hrest := ih (room - letter.utf8Size)
      rw [String.utf8Len_cons]
      omega
    next => exact ih room

theorem fitting_sublist (room : Nat) (text : List Char) : (fitting room text).Sublist text := by
  induction text generalizing room with
  | nil => exact .slnil
  | cons letter text ih =>
    rw [fitting]
    split
    next => exact (ih _).cons_cons letter
    next => exact (ih room).cons letter

/-- A text that fits as a whole is taken as a whole. -/
theorem fitting_of_le {room : Nat} {text : List Char} (h : String.utf8Len text ≤ room) :
    fitting room text = text := by
  induction text generalizing room with
  | nil => rfl
  | cons letter text ih =>
    rw [String.utf8Len_cons] at h
    rw [fitting, if_pos (by omega), ih (by omega)]

end MotionControl
