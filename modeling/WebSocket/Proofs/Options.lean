import Mathlib.Tactic.SplitIfs
import WebSocket.Options

/-! # Options with which a connection can work -/

namespace WebSocket.Options

variable {options : Options}

/-- No time that a connection may take and no limit that is set is zero, what a keep-alive ping
carries fits into a control frame, and every subprotocol has a name. -/
structure IsWorkable (options : Options) : Prop where
  connectTimeout_pos : 0 < options.connectTimeout
  upgradeTimeout_pos : 0 < options.upgradeTimeout
  closeTimeout_pos : 0 < options.closeTimeout
  keepAliveInterval_pos : options.keepAlive = true → 0 < options.keepAliveInterval
  keepAliveMessage_short : (options.keepAliveMessage.getD []).length ≤ maxControlPayload
  named : ∀ name ∈ options.subprotocols, Text.isBlankText name = false
  maxPayload_ne : options.maxPayload ≠ some 0
  maxMessage_ne : options.maxMessage ≠ some 0

/-- Validation accepts exactly the options with which a connection can work. -/
theorem validate_eq_ok_iff : options.validate = .ok () ↔ options.IsWorkable := by
  unfold validate
  constructor
  · intro valid
    split_ifs at valid with connect upgrade close interval message blank zero
    simp only [Bool.and_eq_true, decide_eq_true_eq, not_and] at interval
    simp only [Bool.or_eq_true, decide_eq_true_eq, not_or] at zero
    simp only [List.any_eq_true, not_exists, not_and, Bool.not_eq_true] at blank
    exact {
      connectTimeout_pos := Nat.pos_of_ne_zero connect
      upgradeTimeout_pos := Nat.pos_of_ne_zero upgrade
      closeTimeout_pos := Nat.pos_of_ne_zero close
      keepAliveInterval_pos := fun alive => Nat.pos_of_ne_zero (interval alive)
      keepAliveMessage_short := Nat.le_of_not_lt message
      named := blank
      maxPayload_ne := zero.1
      maxMessage_ne := zero.2 }
  · intro workable
    have blank : options.subprotocols.any Text.isBlankText = false :=
      List.any_eq_false.mpr fun name member => by simp [workable.named name member]
    have interval : (options.keepAlive && options.keepAliveInterval = 0) = false := by
      rw [Bool.and_eq_false_imp]
      exact fun alive => decide_eq_false (Nat.ne_of_gt (workable.keepAliveInterval_pos alive))
    rw [if_neg (Nat.ne_of_gt workable.connectTimeout_pos),
      if_neg (Nat.ne_of_gt workable.upgradeTimeout_pos),
      if_neg (Nat.ne_of_gt workable.closeTimeout_pos), interval, if_neg Bool.false_ne_true,
      if_neg (Nat.not_lt.mpr workable.keepAliveMessage_short), blank, if_neg Bool.false_ne_true,
      if_neg]
    simp [workable.maxPayload_ne, workable.maxMessage_ne]

end WebSocket.Options
