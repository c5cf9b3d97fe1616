import Mathlib.Data.List.Basic

/-!
# Self-delimiting codes

A code that can be read off the front of a byte string, built up from one for
natural numbers.
-/

/-- A code whose reader finds the end of what was put. -/
structure PrefixCode (α : Type) where
  put : α → List UInt8
  get : List UInt8 → Option (α × List UInt8)
  get_put : ∀ value rest, get (put value ++ rest) = some (value, rest)

namespace PrefixCode

variable {α β : Type}

/-- Read a number in unary. -/
def getNat : List UInt8 → Option (Nat × List UInt8)
  | [] => none
  | 0 :: rest => some (0, rest)
  | _ :: rest => (getNat rest).map fun (value, rest) => (value + 1, rest)

theorem getNat_unary (value : Nat) (rest : List UInt8) :
    getNat (List.replicate value 1 ++ 0 :: rest) = some (value, rest) := by
  induction value with
  | zero => rfl
  | succ value ih =>
      rw [List.replicate_succ, List.cons_append]
      simp [getNat, ih]

def nat : PrefixCode Nat where
  put value := List.replicate value 1 ++ [0]
  get := getNat
  get_put value rest := by
    rw [List.append_assoc]
    exact getNat_unary value rest

/-- A code for values that are stored as others. -/
def via (code : PrefixCode α) (into : β → α) (back : α → Option β)
    (back_into : ∀ value, back (into value) = some value) : PrefixCode β where
  put value := code.put (into value)
  get bytes := (code.get bytes).bind fun (stored, rest) =>
    (back stored).map fun value => (value, rest)
  get_put value rest := by simp [code.get_put, back_into]

def pair (first : PrefixCode α) (second : PrefixCode β) : PrefixCode (α × β) where
  put value := first.put value.1 ++ second.put value.2
  get bytes := (first.get bytes).bind fun (left, rest) =>
    (second.get rest).map fun (right, rest) => ((left, right), rest)
  get_put value rest := by simp [first.get_put, second.get_put]

def getMany (code : PrefixCode α) : Nat → List UInt8 → Option (List α × List UInt8)
  | 0, bytes => some ([], bytes)
  | count + 1, bytes => (code.get bytes).bind fun (value, rest) =>
      (getMany code count rest).map fun (values, rest) => (value :: values, rest)

theorem getMany_flatMap (code : PrefixCode α) (values : List α) (rest : List UInt8) :
    getMany code values.length (values.flatMap code.put ++ rest) = some (values, rest) := by
  induction values with
  | nil => rfl
  | cons value values ih => simp [getMany, code.get_put, ih]

/-- The number of the values, and the values. -/
def list (code : PrefixCode α) : PrefixCode (List α) where
  put values := nat.put values.length ++ values.flatMap code.put
  get bytes := (nat.get bytes).bind fun (count, rest) => getMany code count rest
  get_put values rest := by simp [nat.get_put, getMany_flatMap]

def option (code : PrefixCode α) : PrefixCode (Option α) :=
  (list code).via Option.toList
    (fun | [] => some none | [value] => some (some value) | _ => none)
    (by rintro (_ | value) <;> rfl)

def bool : PrefixCode Bool :=
  nat.via Bool.toNat (fun value => some (value == 1)) (by decide)

def byte : PrefixCode UInt8 :=
  nat.via UInt8.toNat (fun value => some (UInt8.ofNat value)) (by simp)

def uint32 : PrefixCode UInt32 :=
  nat.via UInt32.toNat (fun value => some (UInt32.ofNat value)) (by simp)

/-- The magnitude of a number under its sign. -/
def signed (value : Bool × Nat) : Int :=
  if value.1 then -(value.2 : Int) else value.2

theorem signed_sign_natAbs (value : Int) :
    signed (decide (value < 0), value.natAbs) = value := by
  unfold signed
  by_cases negative : value < 0
  · rw [if_pos (decide_eq_true negative)]
    omega
  · rw [if_neg (by simpa using negative)]
    omega

def int : PrefixCode Int :=
  (pair bool nat).via (fun value => (decide (value < 0), value.natAbs))
    (fun stored => some (signed stored))
    (fun value => congrArg some (signed_sign_natAbs value))

def string : PrefixCode String :=
  (list nat).via (fun text => text.toList.map Char.toNat)
    (fun codes => some (String.ofList (codes.map Char.ofNat)))
    (by
      intro text
      simp [Function.comp_def])

end PrefixCode
