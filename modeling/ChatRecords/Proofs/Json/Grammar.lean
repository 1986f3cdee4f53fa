import ChatRecords.Proofs.Json.RoundTrip

/-!
# The grammar of JSON text

What a text denotes, by the JSON standard and not by a reader of it: there are no limits on depth or
on digits, and no words for numbers that are not finite. A number with a point or an exponent is
real, any other is an integer. The grammar says of a text what its front denotes and what is left
after that. With the reader it shares the tables of escapes, hexadecimal digits and white space.

## Main definitions

* `Json.Grammar.Spelled`: the characters of a string, with their escapes.
* `Json.Grammar.Number`: a number.
* `Json.Grammar.Atom`: a value that is neither an array nor an object.
* `Json.Grammar.Derives`: a value, an entry, or several of either with commas between them.
* `Json.Denotes`: a whole text denotes a value.

## Main results

* `Json.Grammar.Derives.unique`: the front of a text denotes one thing, up to one place.
* `Json.Denotes.unique`: a text denotes one value at most.
-/

namespace ChatRecords
namespace Json
namespace Grammar

open Text Reader

/-! ## Tokens -/

/-- A text goes on after some white space. -/
def Blank (t r : List Char) : Prop := ∃ space, (∀ c ∈ space, isSpace c = true) ∧ t = space ++ r

/-- The characters of a string, up to its closing quote and past it. -/
inductive Spelled : List Char → List Char → List Char → Prop
  | done (r : List Char) : Spelled ('"' :: r) [] r
  /-- A character that stands for itself. -/
  | plain {c : Char} {t s r : List Char} (hcontrol : ¬c < ' ') (hquote : c ≠ '"')
      (hbackslash : c ≠ '\\') (h : Spelled t s r) : Spelled (c :: t) (c :: s) r
  | letter {c e : Char} {t s r : List Char} (he : escape? c = some e) (h : Spelled t s r) :
      Spelled ('\\' :: c :: t) (e :: s) r
  /-- The number of a character that is not half of a pair. -/
  | code {a b c d : Char} {n : Nat} {t s r : List Char} (hn : hex4? a b c d = some n)
      (hrange : n < 0xD800 ∨ 0xE000 ≤ n) (h : Spelled t s r) :
      Spelled ('\\' :: 'u' :: a :: b :: c :: d :: t) (Char.ofNat n :: s) r
  /-- Two numbers that are one character together. -/
  | pair {a b c d a' b' c' d' : Char} {n m : Nat} {t s r : List Char}
      (hn : hex4? a b c d = some n) (hm : hex4? a' b' c' d' = some m)
      (hhigh : 0xD800 ≤ n ∧ n < 0xDC00) (hlow : 0xDC00 ≤ m ∧ m < 0xE000) (h : Spelled t s r) :
      Spelled ('\\' :: 'u' :: a :: b :: c :: d :: '\\' :: 'u' :: a' :: b' :: c' :: d' :: t)
        (Char.ofNat (0x10000 + (n - 0xD800) * 0x400 + (m - 0xDC00)) :: s) r

/-- A sign out of some, or none. -/
inductive Sign (signs : List Char) : List Char → Bool → List Char → Prop
  | absent (t : List Char) : Sign signs t false t
  | present {c : Char} (hc : c ∈ signs) (t : List Char) : Sign signs (c :: t) (decide (c = '-')) t

/-- The digits after the point of a number. -/
inductive Fraction : List Char → List Char → List Char → Prop
  | absent (t : List Char) : Fraction t [] t
  | point {ds t : List Char} (hall : AllDigits ds) (hne : ds ≠ []) : Fraction ('.' :: (ds ++ t)) ds t

/-- The exponent of a number. -/
inductive Exponent : List Char → Option Int → List Char → Prop
  | absent (t : List Char) : Exponent t none t
  | present {c : Char} {negative : Bool} {t ds r : List Char} (hc : c = 'e' ∨ c = 'E')
      (hsign : Sign ['+', '-'] t negative (ds ++ r)) (hall : AllDigits ds) (hne : ds ≠ []) :
      Exponent (c :: t) (some (if negative then -(natOfDigits ds : Int) else natOfDigits ds)) r

/-- The number with some digits before and after its point, and with an exponent. It is an integer
if there is neither a point nor an exponent. -/
def numberOf (negative : Bool) (whole part : List Char) (exponent : Option Int) : Json :=
  if part = [] ∧ exponent = none then
    .integer (if negative then -(natOfDigits whole : Int) else natOfDigits whole)
  else
    .real (Double.ofDecimal negative
      ⟨natOfDigits (whole ++ part), exponent.getD 0 - part.length⟩)

/-- A number: its sign, the digits before its point, those after it, and an exponent. -/
inductive Number : List Char → Json → List Char → Prop
  | mk {negative : Bool} {whole part t u w r : List Char} {exponent : Option Int}
      (hsign : Sign ['-'] t negative (whole ++ u)) (hwhole : IsWhole whole)
      (hfraction : Fraction u part w) (hexponent : Exponent w exponent r) :
      Number t (numberOf negative whole part exponent) r

/-! ## Values -/

/-- A value that is neither an array nor an object. -/
inductive Atom : List Char → Json → List Char → Prop
  | null (r : List Char) : Atom ('n' :: 'u' :: 'l' :: 'l' :: r) .null r
  | truth (r : List Char) : Atom ('t' :: 'r' :: 'u' :: 'e' :: r) (.bool true) r
  | falsehood (r : List Char) : Atom ('f' :: 'a' :: 'l' :: 's' :: 'e' :: r) (.bool false) r
  | number {t r : List Char} {v : Json} (h : Number t v r) : Atom t v r
  | string {t s r : List Char} (h : Spelled t s r) : Atom ('"' :: t) (.string (String.ofList s)) r

/-- What there may be several of between brackets. -/
inductive Part where
  | value
  /-- A key with its value. -/
  | entry

def Part.Content : Part → Type
  | .value => Json
  | .entry => String × Json

/-- What a stretch of text is. -/
inductive Shape where
  | one (part : Part)
  /-- Any number of parts, with commas between them. -/
  | many (part : Part)

def Shape.Content : Shape → Type
  | .one part => part.Content
  | .many part => List part.Content

/-- The front of a text is of a shape and denotes something, and what is left comes after it. -/
inductive Derives : (shape : Shape) → List Char → shape.Content → List Char → Prop
  | atom {t r : List Char} {v : Json} (h : Atom t v r) : Derives (.one .value) t v r
  | array {t r : List Char} {vs : List Json} (h : Derives (.many .value) t vs (']' :: r)) :
      Derives (.one .value) ('[' :: t) (Json.array vs) r
  | object {t r : List Char} {es : List (String × Json)}
      (h : Derives (.many .entry) t es ('}' :: r)) :
      Derives (.one .value) ('{' :: t) (Json.object es) r
  /-- A key, a colon and a value. -/
  | entry {t k u w x r : List Char} {v : Json} (hkey : Spelled t k u) (hcolon : Blank u (':' :: w))
      (hspace : Blank w x) (h : Derives (.one .value) x v r) :
      Derives (.one .entry) ('"' :: t) (String.ofList k, v) r
  | none {part : Part} {t r : List Char} (h : Blank t r) : Derives (.many part) t [] r
  | last {part : Part} {t u w r : List Char} {x : part.Content} (hbefore : Blank t u)
      (h : Derives (.one part) u x w) (hafter : Blank w r) : Derives (.many part) t [x] r
  /-- A part that is not the last one. -/
  | more {part : Part} {t u w s r : List Char} {x y : part.Content} {xs : List part.Content}
      (hbefore : Blank t u) (h : Derives (.one part) u x w) (hcomma : Blank w (',' :: s))
      (hrest : Derives (.many part) s (y :: xs) r) : Derives (.many part) t (x :: y :: xs) r

end Grammar

/-- A text denotes a value: it is the text of the value, with white space around it. -/
def Denotes (text : String) (v : Json) : Prop :=
  ∃ t r, Grammar.Blank text.toList t ∧ Grammar.Derives (.one .value) t v r ∧ Grammar.Blank r []

namespace Grammar

open Text Reader

/-! ## What follows a token -/

/-- What may follow a value: nothing, white space, or the end of an item or of a container. -/
def Follows (r : List Char) : Prop :=
  ∀ c ∈ r.head?, isSpace c = true ∨ c = ',' ∨ c = ']' ∨ c = '}'

theorem follows_nil : Follows [] := by simp [Follows]

theorem Follows.head?_ne {r : List Char} (h : Follows r) {c : Char} (hspace : isSpace c = false)
    (hcomma : c ≠ ',') (hbracket : c ≠ ']') (hbrace : c ≠ '}') : r.head? ≠ some c := by
  intro hc
  rcases h c hc with hd | rfl | rfl | rfl
  · rw [hspace] at hd
    cases hd
  · exact hcomma rfl
  · exact hbracket rfl
  · exact hbrace rfl

theorem Follows.noDigit {r : List Char} (h : Follows r) : NoDigit r := by
  intro c hc
  rcases h c hc with hspace | rfl | rfl | rfl
  · simp only [isSpace, Bool.or_eq_true, decide_eq_true_eq] at hspace
    rcases hspace with ((rfl | rfl) | rfl) | rfl <;> decide
  · decide
  · decide
  · decide

/-- A text does not begin with white space. -/
def Solid (t : List Char) : Prop := ∀ c ∈ t.head?, isSpace c = false

theorem solid_cons {c : Char} (h : isSpace c = false) (t : List Char) : Solid (c :: t) := by
  simpa [Solid] using h

/-- White space ends where something else begins. -/
theorem Blank.unique {t r r' : List Char} (h : Blank t r) (h' : Blank t r') (hr : Solid r)
    (hr' : Solid r') : r = r' := by
  have hskip {r : List Char} (h : Blank t r) (hr : Solid r) : skip t = r := by
    obtain ⟨space, hspace, rfl⟩ := h
    rw [skip_append hspace]
    cases r with
    | nil => rfl
    | cons c r => exact skip_cons (hr c rfl) r
  rw [← hskip h hr, hskip h' hr']

theorem Blank.follows {t r : List Char} (h : Blank t r) (hr : Follows r) : Follows t := by
  obtain ⟨space, hspace, rfl⟩ := h
  cases space with
  | nil => exact hr
  | cons d space =>
    intro c hc
    obtain rfl : d = c := by simpa using hc
    exact .inl (hspace d (by simp))

/-! ## Numbers are unambiguous -/

theorem digits_unique {ds r ds' r' : List Char} (hds : AllDigits ds) (hr : NoDigit r)
    (hds' : AllDigits ds') (hr' : NoDigit r') (h : ds ++ r = ds' ++ r') : ds = ds' ∧ r = r' := by
  have hdigits := digits_append hds hr
  rw [h, digits_append hds' hr'] at hdigits
  obtain ⟨rfl, rfl⟩ := Prod.mk.inj hdigits
  exact ⟨rfl, rfl⟩

/-- The signs of numbers and of exponents are no digits. -/
theorem noDigit_sign : ∀ c ∈ ['+', '-'], isAsciiDigit c = false := by
  rw [List.forall_mem_cons, List.forall_mem_singleton]
  exact ⟨by decide, by decide⟩

theorem Sign.unique {signs t u u' : List Char} {b b' : Bool}
    (hsigns : ∀ c ∈ signs, isAsciiDigit c = false) (h : Sign signs t b u) (h' : Sign signs t b' u')
    (hu : StartsDigit u) (hu' : StartsDigit u') : b = b' ∧ u = u' := by
  cases h with
  | absent =>
    cases h' with
    | absent => exact ⟨rfl, rfl⟩
    | present hc => exact absurd rfl (hu.head?_ne (hsigns _ hc))
  | present hc =>
    cases h' with
    | absent => exact absurd rfl (hu'.head?_ne (hsigns _ hc))
    | present _ => exact ⟨rfl, rfl⟩

theorem Fraction.noDigit {t p r : List Char} (h : Fraction t p r) (hr : NoDigit r) : NoDigit t := by
  cases h with
  | absent => exact hr
  | point => exact noDigit_point _

theorem Fraction.unique {t p r p' r' : List Char} (h : Fraction t p r) (h' : Fraction t p' r')
    (hr : NoDigit r) (hpoint : r.head? ≠ some '.') (hr' : NoDigit r')
    (hpoint' : r'.head? ≠ some '.') : p = p' ∧ r = r' := by
  cases h with
  | absent =>
    cases h' with
    | absent => exact ⟨rfl, rfl⟩
    | point => exact absurd rfl hpoint
  | point hall hne =>
    generalize ht : '.' :: (p ++ r) = t at h'
    cases h' with
    | absent => exact absurd (by rw [← ht]; rfl) hpoint'
    | point hall' hne' => exact digits_unique hall hr hall' hr' (List.cons.inj ht).2

theorem Exponent.noDigit {t r : List Char} {e : Option Int} (h : Exponent t e r) (hr : Follows r) :
    NoDigit t := by
  cases h with
  | absent => exact hr.noDigit
  | present hc => exact noDigit_cons (by rcases hc with rfl | rfl <;> decide)

theorem Exponent.head?_ne_point {t r : List Char} {e : Option Int} (h : Exponent t e r)
    (hr : Follows r) : t.head? ≠ some '.' := by
  cases h with
  | absent => exact hr.head?_ne (by decide) (by decide) (by decide) (by decide)
  | present hc => rcases hc with rfl | rfl <;> simp

theorem Follows.not_exponent {c : Char} {t : List Char} (h : Follows (c :: t)) :
    ¬(c = 'e' ∨ c = 'E') := by
  rintro (rfl | rfl) <;>
    exact h.head?_ne (by decide) (by decide) (by decide) (by decide) rfl

theorem Exponent.unique {t r r' : List Char} {e e' : Option Int} (h : Exponent t e r)
    (h' : Exponent t e' r') (hr : Follows r) (hr' : Follows r') : e = e' ∧ r = r' := by
  cases h with
  | absent =>
    cases h' with
    | absent => exact ⟨rfl, rfl⟩
    | present hc => exact absurd hc hr.not_exponent
  | present hc hsign hall hne =>
    cases h' with
    | absent => exact absurd hc hr'.not_exponent
    | present hc' hsign' hall' hne' =>
      obtain ⟨rfl, hdigits⟩ := hsign.unique noDigit_sign hsign' (startsDigit_append hall hne _)
        (startsDigit_append hall' hne' _)
      obtain ⟨rfl, rfl⟩ := digits_unique hall hr.noDigit hall' hr'.noDigit hdigits
      exact ⟨rfl, rfl⟩

theorem Number.startsNumber {t r : List Char} {v : Json} (h : Number t v r) : StartsNumber t := by
  obtain ⟨hsign, hwhole, -, -⟩ := h
  cases hsign with
  | absent => exact .inl (startsDigit_append hwhole.1 hwhole.2.1 _)
  | present hc => exact .inr (by rw [List.mem_singleton.1 hc]; rfl)

theorem not_number {c : Char} {t r : List Char} {v : Json} (hdigit : isAsciiDigit c = false)
    (hminus : c ≠ '-') : ¬Number (c :: t) v r :=
  fun h => h.startsNumber.head?_ne hdigit hminus rfl

theorem Number.unique {t r r' : List Char} {v v' : Json} (h : Number t v r) (h' : Number t v' r')
    (hr : Follows r) (hr' : Follows r') : v = v' ∧ r = r' := by
  obtain ⟨hsign, hwhole, hfraction, hexponent⟩ := h
  obtain ⟨hsign', hwhole', hfraction', hexponent'⟩ := h'
  -- from the front of the text to its end, each part is where the other derivation has it
  obtain ⟨rfl, hdigits⟩ := hsign.unique (fun c hc => noDigit_sign c (.tail _ hc)) hsign'
    (startsDigit_append hwhole.1 hwhole.2.1 _) (startsDigit_append hwhole'.1 hwhole'.2.1 _)
  have hw := hexponent.noDigit hr
  have hw' := hexponent'.noDigit hr'
  obtain ⟨rfl, rfl⟩ := digits_unique hwhole.1 (hfraction.noDigit hw) hwhole'.1
    (hfraction'.noDigit hw') hdigits
  obtain ⟨rfl, rfl⟩ := hfraction.unique hfraction' hw (hexponent.head?_ne_point hr) hw'
    (hexponent'.head?_ne_point hr')
  obtain ⟨rfl, rfl⟩ := hexponent.unique hexponent' hr hr'
  exact ⟨rfl, rfl⟩

/-! ## Strings are unambiguous -/

/-- The reader of strings finds what a text spells. -/
theorem Spelled.stringBody_eq {t s r : List Char} (h : Spelled t s r) :
    stringBody t = some (s, r) := by
  induction h with
  | done r => rfl
  | plain hcontrol hquote hbackslash _ ih =>
    rw [stringBody, if_neg hcontrol, ih]
    · rfl
    · exact hquote
    · rintro _ _ _ _ _ rfl
      exact absurd rfl hbackslash
    · rintro _ _ rfl
      exact absurd rfl hbackslash
  | @letter c e t s r he _ ih =>
    have hc : c ≠ 'u' := by
      rintro rfl
      cases he
    rw [stringBody, he, ih]
    · rfl
    · rintro a b c' d rest rfl
      exact absurd rfl hc
  | code hn hrange _ ih => rw [stringBody, hn]; simp [hrange, ih]
  | @pair a b c d a' b' c' d' n m t s r hn hm hhigh hlow _ ih =>
    have hrange : ¬(n < 0xD800 ∨ 0xE000 ≤ n) := by omega
    rw [stringBody, hn]
    simp only [if_neg hrange, if_pos hhigh.2, hm, if_pos hlow, ih, Option.map_some]

theorem Spelled.of_stringBody {t s r : List Char} (h : stringBody t = some (s, r)) :
    Spelled t s r := by
  fun_induction stringBody t generalizing s r with
  | case2 rest =>
    cases h
    exact .done _
  | case4 a b c d rest n hn hrange ih =>
    obtain ⟨⟨s, r⟩, hbody, ⟨⟩⟩ := Option.map_eq_some_iff.1 h
    exact .code hn hrange (ih hbody)
  | case6 a b c d n hn hrange hhigh a' b' c' d' rest m hm hlow ih =>
    obtain ⟨⟨s, r⟩, hbody, ⟨⟩⟩ := Option.map_eq_some_iff.1 h
    exact .pair hn hm ⟨by omega, hhigh⟩ hlow (ih hbody)
  | case10 c rest _ e he ih =>
    obtain ⟨⟨s, r⟩, hbody, ⟨⟩⟩ := Option.map_eq_some_iff.1 h
    exact .letter he (ih hbody)
  | case13 c rest hquote _ hescape hcontrol ih =>
    obtain ⟨⟨s, r⟩, hbody, ⟨⟩⟩ := Option.map_eq_some_iff.1 h
    refine .plain hcontrol hquote ?_ (ih hbody)
    rintro rfl
    cases rest with
    | nil => cases hbody
    | cons c rest => exact hescape c rest rfl rfl
  | _ => cases h

theorem Spelled.unique {t s r s' r' : List Char} (h : Spelled t s r) (h' : Spelled t s' r') :
    s = s' ∧ r = r' := by
  have heq := h.stringBody_eq
  rw [h'.stringBody_eq] at heq
  cases heq
  exact ⟨rfl, rfl⟩

/-! ## Values are unambiguous -/

/-- A text begins as a value or an entry does: not with white space, a comma or the end of a
container. -/
def Opens (t : List Char) : Prop :=
  ∃ c ∈ t.head?, isSpace c = false ∧ c ≠ ',' ∧ c ≠ ']' ∧ c ≠ '}'

/-- A text begins with the end of a container. -/
def Closes (t : List Char) : Prop := ∃ c ∈ t.head?, c = ']' ∨ c = '}'

theorem Opens.solid {t : List Char} (h : Opens t) : Solid t := by
  obtain ⟨c, hc, hspace, -⟩ := h
  intro d hd
  obtain rfl := Option.mem_unique hc hd
  exact hspace

theorem Closes.solid {t : List Char} (h : Closes t) : Solid t := by
  obtain ⟨c, hc, h⟩ := h
  intro d hd
  obtain rfl := Option.mem_unique hc hd
  rcases h with rfl | rfl <;> decide

theorem Closes.follows {t : List Char} (h : Closes t) : Follows t := by
  obtain ⟨c, hc, h⟩ := h
  intro d hd
  obtain rfl := Option.mem_unique hc hd
  exact .inr (.inr h)

theorem Opens.not_closes {t : List Char} (h : Opens t) : ¬Closes t := by
  obtain ⟨c, hc, -, -, hbracket, hbrace⟩ := h
  rintro ⟨d, hd, h⟩
  obtain rfl := Option.mem_unique hc hd
  exact h.elim hbracket hbrace

theorem ne_of_digit {c d : Char} (hc : isAsciiDigit c = true) (hd : isAsciiDigit d = false) :
    c ≠ d := by
  rintro rfl
  rw [hd] at hc
  cases hc

theorem isSpace_of_digit {c : Char} (h : isAsciiDigit c = true) : isSpace c = false := by
  have hspace := ne_of_digit h (d := ' ') (by decide)
  have htab := ne_of_digit h (d := '\t') (by decide)
  have hline := ne_of_digit h (d := '\n') (by decide)
  have hreturn := ne_of_digit h (d := '\r') (by decide)
  simp [isSpace, hspace, htab, hline, hreturn]

theorem opens_of_startsNumber {t : List Char} (h : StartsNumber t) : Opens t := by
  rcases h with ⟨c, hc, hdigit⟩ | hminus
  · exact ⟨c, hc, isSpace_of_digit hdigit, ne_of_digit hdigit (by decide),
      ne_of_digit hdigit (by decide), ne_of_digit hdigit (by decide)⟩
  · exact ⟨'-', hminus, by decide⟩

theorem Atom.unique {t r r' : List Char} {v v' : Json} (h : Atom t v r) (h' : Atom t v' r')
    (hr : Follows r) (hr' : Follows r') : v = v' ∧ r = r' := by
  -- two different kinds of atom begin with different characters
  cases h with
  | number h =>
    cases h' with
    | number h' => exact h.unique h' hr hr'
    | _ => exact (not_number (by decide) (by decide) h).elim
  | string h =>
    generalize ht : '"' :: _ = t at h'
    cases h' with
    | number h' => exact (not_number (by decide) (by decide) (ht ▸ h')).elim
    | string h' =>
      obtain ⟨rfl, rfl⟩ := h.unique ((List.cons.inj ht).2 ▸ h')
      exact ⟨rfl, rfl⟩
    | _ => simp at ht
  | _ =>
    generalize ht : (_ :: _ : List Char) = t at h'
    cases h' with
    | number h' => exact (not_number (by decide) (by decide) (ht ▸ h')).elim
    | _ => simp_all

theorem Atom.opens {t r : List Char} {v : Json} (h : Atom t v r) : Opens t := by
  cases h with
  | number h => exact opens_of_startsNumber h.startsNumber
  | _ => exact ⟨_, rfl, by decide⟩

theorem Atom.head?_ne {t r : List Char} {v : Json} (h : Atom t v r) :
    t.head? ≠ some '[' ∧ t.head? ≠ some '{' := by
  cases h with
  | number h =>
    have hstart := h.startsNumber
    exact ⟨hstart.head?_ne (by decide) (by decide), hstart.head?_ne (by decide) (by decide)⟩
  | _ => simp

theorem Derives.opens {part : Part} {t r : List Char} {x : part.Content}
    (h : Derives (.one part) t x r) : Opens t := by
  cases h with
  | atom h => exact h.opens
  | _ => exact ⟨_, rfl, by decide⟩

theorem follows_comma (t : List Char) : Follows (',' :: t) := by simp [Follows]

theorem solid_comma (t : List Char) : Solid (',' :: t) := solid_cons (by decide) t

theorem not_closes_comma (t : List Char) : ¬Closes (',' :: t) := by simp [Closes]

/-- What comes after a stretch of text that is as long as it can be. -/
def After : Shape → List Char → Prop
  | .one _, r => Follows r
  | .many _, r => Closes r

theorem Derives.unique {shape : Shape} {t r r' : List Char} {x x' : shape.Content}
    (h : Derives shape t x r) (h' : Derives shape t x' r') (hr : After shape r)
    (hr' : After shape r') : x = x' ∧ r = r' := by
  induction h generalizing r' with
  | atom h =>
    cases h' with
    | atom h' => exact h.unique h' hr hr'
    | array => exact absurd rfl h.head?_ne.1
    | object => exact absurd rfl h.head?_ne.2
  | @array t r vs h ih =>
    generalize ht : '[' :: t = s at h'
    cases h' with
    | atom h' => exact absurd (by rw [← ht]; rfl) h'.head?_ne.1
    | array h' =>
      obtain rfl := (List.cons.inj ht).2
      obtain ⟨rfl, heq⟩ := ih h' ⟨']', rfl, .inl rfl⟩ ⟨']', rfl, .inl rfl⟩
      exact ⟨rfl, (List.cons.inj heq).2⟩
    | object => simp at ht
  | @object t r es h ih =>
    generalize ht : '{' :: t = s at h'
    cases h' with
    | atom h' => exact absurd (by rw [← ht]; rfl) h'.head?_ne.2
    | array => simp at ht
    | object h' =>
      obtain rfl := (List.cons.inj ht).2
      obtain ⟨rfl, heq⟩ := ih h' ⟨'}', rfl, .inr rfl⟩ ⟨'}', rfl, .inr rfl⟩
      exact ⟨rfl, (List.cons.inj heq).2⟩
  | entry hkey hcolon hspace h ih =>
    cases h' with
    | entry hkey' hcolon' hspace' h' =>
      obtain ⟨rfl, rfl⟩ := hkey.unique hkey'
      cases hcolon.unique hcolon' (solid_cons (by decide) _) (solid_cons (by decide) _)
      obtain rfl := hspace.unique hspace' h.opens.solid h'.opens.solid
      obtain ⟨rfl, rfl⟩ := ih h' hr hr'
      exact ⟨rfl, rfl⟩
  | none hbefore =>
    cases h' with
    | none hbefore' => exact ⟨rfl, hbefore.unique hbefore' hr.solid hr'.solid⟩
    | last hbefore' h' | more hbefore' h' =>
      obtain rfl := hbefore.unique hbefore' hr.solid h'.opens.solid
      exact absurd hr h'.opens.not_closes
  | last hbefore h hafter ih =>
    have hw := hafter.follows hr.follows
    cases h' with
    | none hbefore' =>
      obtain rfl := hbefore.unique hbefore' h.opens.solid hr'.solid
      exact absurd hr' h.opens.not_closes
    | last hbefore' h' hafter' =>
      obtain rfl := hbefore.unique hbefore' h.opens.solid h'.opens.solid
      obtain ⟨rfl, rfl⟩ := ih h' hw (hafter'.follows hr'.follows)
      exact ⟨rfl, hafter.unique hafter' hr.solid hr'.solid⟩
    | more hbefore' h' hcomma' =>
      obtain rfl := hbefore.unique hbefore' h.opens.solid h'.opens.solid
      obtain ⟨-, rfl⟩ := ih h' hw (hcomma'.follows (follows_comma _))
      obtain rfl := hafter.unique hcomma' hr.solid (solid_comma _)
      exact absurd hr (not_closes_comma _)
  | more hbefore h hcomma hrest ih ihrest =>
    have hw := hcomma.follows (follows_comma _)
    cases h' with
    | none hbefore' =>
      obtain rfl := hbefore.unique hbefore' h.opens.solid hr'.solid
      exact absurd hr' h.opens.not_closes
    | last hbefore' h' hafter' =>
      obtain rfl := hbefore.unique hbefore' h.opens.solid h'.opens.solid
      obtain ⟨-, rfl⟩ := ih h' hw (hafter'.follows hr'.follows)
      obtain rfl := hafter'.unique hcomma hr'.solid (solid_comma _)
      exact absurd hr' (not_closes_comma _)
    | more hbefore' h' hcomma' hrest' =>
      obtain rfl := hbefore.unique hbefore' h.opens.solid h'.opens.solid
      obtain ⟨rfl, rfl⟩ := ih h' hw (hcomma'.follows (follows_comma _))
      cases hcomma.unique hcomma' (solid_comma _) (solid_comma _)
      obtain ⟨heq, rfl⟩ := ihrest hrest' hr hr'
      exact ⟨by rw [heq], rfl⟩

end Grammar

/-- A text denotes one value at most. -/
theorem Denotes.unique {text : String} {v v' : Json} (h : Denotes text v) (h' : Denotes text v') :
    v = v' := by
  obtain ⟨t, r, hbefore, h, hafter⟩ := h
  obtain ⟨t', r', hbefore', h', hafter'⟩ := h'
  obtain rfl := hbefore.unique hbefore' h.opens.solid h'.opens.solid
  exact (h.unique h' (hafter.follows Grammar.follows_nil) (hafter'.follows Grammar.follows_nil)).1

end Json
end ChatRecords
