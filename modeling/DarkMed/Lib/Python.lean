import Mathlib.Algebra.GroupWithZero.Nat
import Mathlib.Data.List.DropRight
import Mathlib.Data.List.Infix
import Mathlib.Data.Rat.Defs

/-!
# Python Values

What `json.loads` returns, and the operations that Python programs apply to it without a
look at its type: truth values, `in`, subscripts, `get` and comparisons.  Where Python
raises, the operation does.
-/

namespace DarkMed.Lib.Python

/-! ## Strings -/

/-- A Python string: code points, and surrogates count as such. -/
abbrev PyString := List (Fin 0x110000)

instance neZero_codePoints : NeZero 0x110000 :=
  ⟨by decide⟩

/-- A string literal. -/
def text (s : String) : PyString :=
  s.toList.map fun c => Fin.ofNat 0x110000 c.toNat

/-! ## Dictionaries -/

/-- What the dictionary holds for the key, of pairs in the order in which they were stored. -/
def lookup {α : Type} (key : PyString) : List (PyString × α) → Option α
  | [] => none
  | (k, v) :: pairs => (lookup key pairs).or (if k = key then some v else none)

/-- Later pairs count before earlier ones. -/
theorem lookup_append {α : Type} (key : PyString) (pairs more : List (PyString × α)) :
    lookup key (pairs ++ more) = (lookup key more).or (lookup key pairs) := by
  induction pairs with
  | nil => simp [lookup]
  | cons pair pairs ih =>
    obtain ⟨k, v⟩ := pair
    rw [List.cons_append, lookup, ih, lookup, Option.or_assoc]

/-- One more pair: it is the one that counts for its key, and for no other. -/
theorem lookup_concat {α : Type} (key k : PyString) (v : α) (pairs : List (PyString × α)) :
    lookup key (pairs ++ [(k, v)]) = if k = key then some v else lookup key pairs := by
  rw [lookup_append]
  by_cases h : k = key <;> simp [lookup, h]

/-! ## Texts -/

/-- `c.isspace()` -/
def isSpace (c : Fin 0x110000) : Bool :=
  (0x9 ≤ c && c ≤ 0xD) || (0x1C ≤ c && c ≤ 0x20) || c == 0x85 || c == 0xA0 || c == 0x1680 ||
    (0x2000 ≤ c && c ≤ 0x200A) || c == 0x2028 || c == 0x2029 || c == 0x202F || c == 0x205F ||
    c == 0x3000

/-- `s.strip()` -/
def strip (s : PyString) : PyString :=
  (s.dropWhile isSpace).rdropWhile isSpace

/-- The code points at which `splitlines` ends a line. -/
def isLineBreak (c : Fin 0x110000) : Bool :=
  (0xA ≤ c && c ≤ 0xD) || (0x1C ≤ c && c ≤ 0x1E) || c == 0x85 || c == 0x2028 || c == 0x2029

/-- `s.splitlines()` for a text that was read from a file, in which universal newlines have left
    no carriage return: a break at the end of the text does not begin another line. -/
def splitlines (s : PyString) : List PyString :=
  let parts := s.splitOnP isLineBreak
  if parts.getLast? = some [] then parts.dropLast else parts

/-- `line.split("=", 1)` for a line with an equals sign, stripped -/
def keyValue (line : PyString) : Option (PyString × PyString) :=
  if line.elem 0x3D then
    some (strip (line.takeWhile (· != 0x3D)), strip (line.dropWhile (· != 0x3D)).tail)
  else none

/-! ## Values -/

/-- The kinds of exceptions that the operations below raise, and those of reading a file. -/
inductive PyError where
  | typeError
  | attributeError
  | keyError
  | osError
  | jsonDecodeError
  /-- `UnicodeDecodeError`, `RecursionError` and the like -/
  | other
  deriving DecidableEq, Repr

/-- A program that does not raise has not raised in its first statement. -/
theorem exists_of_bind_eq_ok {α β : Type} {x : Except PyError α} {f : α → Except PyError β} {b : β}
    (h : (x >>= f) = .ok b) : ∃ a, x = .ok a ∧ f a = .ok b := by
  cases x with
  | error e => cases h
  | ok a => exact ⟨a, rfl, h⟩

inductive PyFloat where
  | nan
  | negInf
  | posInf
  | finite (q : Rat)
  deriving DecidableEq

/-- `x < n` for an integer `n`, which Python compares exactly. -/
def PyFloat.lt : PyFloat → Int → Bool
  | .nan, _ => false
  | .negInf, _ => true
  | .posInf, _ => false
  | .finite q, n => decide (q < n)

/-- `x <= n` -/
def PyFloat.le : PyFloat → Int → Bool
  | .nan, _ => false
  | .negInf, _ => true
  | .posInf, _ => false
  | .finite q, n => decide (q ≤ n)

/-- A value of `json.loads`.  A dictionary is the list of its pairs in the order of the text;
    of two pairs with one key the later one counts. -/
inductive Json where
  | null
  | bool (b : Bool)
  | int (n : Int)
  | float (x : PyFloat)
  | str (s : PyString)
  | list (items : List Json)
  | dict (pairs : List (PyString × Json))

namespace Json

/-- `d.get(key)`, with Python's `None` for a key that is not there -/
def value (pairs : List (PyString × Json)) (key : PyString) : Json :=
  (lookup key pairs).getD .null

/-- `v == s` for a string `s` -/
def isStr : Json → PyString → Bool
  | .str t, s => decide (t = s)
  | _, _ => false

/-- Only the string itself is equal to a string. -/
@[simp] theorem isStr_eq_true_iff {v : Json} {s : PyString} : v.isStr s = true ↔ v = .str s := by
  cases v <;> simp [isStr]

/-- What a dictionary takes for one key: numbers that are equal are, whatever their types. -/
inductive Key where
  | null
  | number (x : PyFloat)
  | str (s : PyString)
  deriving DecidableEq

/-- `hash(v)`: lists and dictionaries have none. -/
def key : Json → Except PyError Key
  | .null => return .null
  | .bool b => return .number (.finite (if b then 1 else 0))
  | .int n => return .number (.finite n)
  | .float x => return .number x
  | .str s => return .str s
  | .list _ | .dict _ => throw .typeError

/-- The truth value of a value. -/
def truthy : Json → Bool
  | .null => false
  | .bool b => b
  | .int n => decide (n ≠ 0)
  | .float (.finite q) => decide (q ≠ 0)
  | .float _ => true
  | .str s => decide (s ≠ [])
  | .list items => !items.isEmpty
  | .dict pairs => !pairs.isEmpty

/-- `v in (None, "", [])` -/
def isNoneOrEmpty : Json → Bool
  | .null => true
  | .str s => decide (s = [])
  | .list items => items.isEmpty
  | _ => false

/-- `isinstance(v, (int, float))`; a `bool` is an `int`. -/
def isNumber : Json → Bool
  | .bool _ | .int _ | .float _ => true
  | _ => false

/-- `v < n` for an integer `n` -/
def lt : Json → Int → Except PyError Bool
  | .bool b, n => return decide ((if b then 1 else 0) < n)
  | .int m, n => return decide (m < n)
  | .float x, n => return x.lt n
  | _, _ => throw .typeError

/-- `v <= n` for an integer `n` -/
def le : Json → Int → Except PyError Bool
  | .bool b, n => return decide ((if b then 1 else 0) ≤ n)
  | .int m, n => return decide (m ≤ n)
  | .float x, n => return x.le n
  | _, _ => throw .typeError

/-- `key in v`: a key of a dictionary, an item of a list, a part of a string -/
def contains : Json → PyString → Except PyError Bool
  | .dict pairs, key => return (lookup key pairs).isSome
  | .list items, key => return items.any (·.isStr key)
  | .str s, key => return decide (key <:+: s)
  | _, _ => throw .typeError

/-- `v[key]` -/
def getItem : Json → PyString → Except PyError Json
  | .dict pairs, key =>
    match lookup key pairs with
    | some v => return v
    | none => throw .keyError
  | _, _ => throw .typeError

/-- `v.get(key)` -/
def get : Json → PyString → Except PyError Json
  | .dict pairs, key => return value pairs key
  | _, _ => throw .attributeError

/-- `str(v).startswith(p)` for a prefix `p` of capital letters and an underscore: the text of a
    value that is no string starts with a digit, a sign, a bracket or one of the words `None`,
    `True`, `False`, `nan` and `inf`, and none of them goes on like that. -/
def textStartsWith : Json → PyString → Bool
  | .str s, p => p.isPrefixOf s
  | _, _ => false

/-! ## Truth and comparison -/

/-- A true value is there and not empty. -/
theorem isNoneOrEmpty_of_truthy {v : Json} (h : v.truthy = true) : v.isNoneOrEmpty = false := by
  cases v <;> simp_all [truthy, isNoneOrEmpty]

/-- `<` raises exactly where the value is no number. -/
theorem lt_eq_error_iff {v : Json} {n : Int} {e : PyError} :
    v.lt n = .error e ↔ v.isNumber = false ∧ e = .typeError := by
  cases v <;> simp [lt, isNumber, throw, throwThe, MonadExceptOf.throw, pure, Except.pure, eq_comm]

/-- `<=` raises exactly there, too. -/
theorem le_eq_error_iff {v : Json} {n : Int} {e : PyError} :
    v.le n = .error e ↔ v.isNumber = false ∧ e = .typeError := by
  cases v <;> simp [le, isNumber, throw, throwThe, MonadExceptOf.throw, pure, Except.pure, eq_comm]

/-- What is not less than one is no zero. -/
theorem truthy_of_lt_one {v : Json} (h : v.lt 1 = .ok false) : v.truthy = true := by
  cases v with
  | bool b => cases b <;> simp_all [lt, truthy, pure, Except.pure]
  | int n =>
    simp only [lt, pure, Except.pure, Except.ok.injEq, decide_eq_false_iff_not] at h
    simp only [truthy, ne_eq, decide_eq_true_eq]
    omega
  | float x =>
    cases x with
    | finite q =>
      simp only [lt, PyFloat.lt, pure, Except.pure, Except.ok.injEq, decide_eq_false_iff_not] at h
      simp only [truthy, ne_eq, decide_eq_true_eq]
      rintro rfl
      exact h (by decide)
    | _ => rfl
  | _ => cases h

/-- A number that is not below or at zero is true. -/
theorem truthy_of_le_zero {v : Json} (h : v.le 0 = .ok false) : v.truthy = true := by
  cases v with
  | bool b => cases b <;> simp_all [le, truthy, pure, Except.pure]
  | int n =>
    simp only [le, pure, Except.pure, Except.ok.injEq, decide_eq_false_iff_not] at h
    simp only [truthy, ne_eq, decide_eq_true_eq]
    omega
  | float x =>
    cases x with
    | finite q =>
      simp only [le, PyFloat.le, pure, Except.pure, Except.ok.injEq, decide_eq_false_iff_not] at h
      simp only [truthy, ne_eq, decide_eq_true_eq]
      -- zero is at zero
      rintro rfl
      exact h (by decide)
    | _ => rfl
  | _ => cases h

/-! ## Operations on dictionaries -/

/-- `in` looks for a key of a dictionary. -/
theorem contains_dict (pairs : List (PyString × Json)) (key : PyString) :
    (dict pairs).contains key = .ok (lookup key pairs).isSome := rfl

/-- `get` does not raise. -/
theorem get_dict (pairs : List (PyString × Json)) (key : PyString) :
    (dict pairs).get key = .ok (value pairs key) := rfl

/-- A subscript does not raise where the value is there. -/
theorem getItem_dict {pairs : List (PyString × Json)} {key : PyString}
    (h : (value pairs key).isNoneOrEmpty = false) :
    (dict pairs).getItem key = .ok (value pairs key) := by
  unfold value at h ⊢
  cases hlookup : lookup key pairs with
  -- a key that is not there has `None`
  | none => simp [hlookup, isNoneOrEmpty] at h
  | some v => simp [getItem, hlookup, pure, Except.pure]

end Json

end DarkMed.Lib.Python
