import ExchangeLedger.Schema

set_option autoImplicit false

/-! The audit log's interceptor: what it hands on of the body of a request. -/

namespace ExchangeLedger

namespace AuditLog

inductive JsValue where
  | undefined
  | null
  | boolean (b : Bool)
  | number (x : Float)
  | string (s : Text)
  | array (items : List JsValue)
  | object (fields : List (Text × JsValue))

/-- `value && typeof value === 'object'`. -/
def JsValue.isObject : JsValue → Bool
  | .array _ | .object _ => true
  | _ => false

def redacted : JsValue := .string "[REDACTED]".toList

/-- A field of this name is not set on a clone: the assignment goes to its prototype. -/
def proto : Text := "__proto__".toList

section Sanitize

variable (maskFields : Text → Bool)

mutual

def sanitizePayload : JsValue → JsValue
  | .array items => .array (sanitizeItems items)
  | .object fields => .object (sanitizeFields fields)
  | _ => .undefined

def sanitizeItems : List JsValue → List JsValue
  | [] => []
  | item :: items => sanitizePayload item :: sanitizeItems items

def sanitizeFields : List (Text × JsValue) → List (Text × JsValue)
  | [] => []
  | (key, value) :: fields =>
    if key = proto then sanitizeFields fields
    else if maskFields key then (key, redacted) :: sanitizeFields fields
    else if value.isObject then (key, sanitizePayload value) :: sanitizeFields fields
    else (key, value) :: sanitizeFields fields

end

end Sanitize

def defaultMaskFields : List Text :=
  ["pin", "newPin", "currentPin", "otp", "token", "password", "authorization"].map String.toList

structure AuditLogOptions where
  maskFields : List Text

structure HttpRequest where
  method : Text
  path : Text
  params : JsValue
  query : JsValue
  body : JsValue

structure ContextSnapshot where
  method : Text
  path : Text
  params : JsValue
  query : JsValue
  body : JsValue

def masks (options : AuditLogOptions) (key : Text) : Bool :=
  (defaultMaskFields ++ options.maskFields).contains key

/-- What `record` is given of a request, with the parameters and the query as they are. How its
column stores that is not modelled. -/
def contextSnapshot (options : AuditLogOptions) (request : HttpRequest) : ContextSnapshot :=
  ⟨request.method, request.path, request.params, request.query,
    sanitizePayload (masks options) request.body⟩

/-! ### What two bodies with the same copy have in common -/

mutual

/-- The bodies differ in nothing that is logged. -/
inductive SameLogged (maskFields : Text → Bool) : JsValue → JsValue → Prop where
  | atoms {v w : JsValue} (left : v.isObject = false) (right : w.isObject = false) :
      SameLogged maskFields v w
  | arrays {l m : List JsValue} (items : SameItems maskFields l m) :
      SameLogged maskFields (.array l) (.array m)
  | objects {f g : List (Text × JsValue)} (fields : SameFields maskFields f g) :
      SameLogged maskFields (.object f) (.object g)

inductive SameItems (maskFields : Text → Bool) : List JsValue → List JsValue → Prop where
  | nil : SameItems maskFields [] []
  | cons {v w : JsValue} {l m : List JsValue} (item : SameLogged maskFields v w)
      (items : SameItems maskFields l m) : SameItems maskFields (v :: l) (w :: m)

/-- Under a masked name anything may stand, and under another one what a body may differ in. -/
inductive SameFields (maskFields : Text → Bool) :
    List (Text × JsValue) → List (Text × JsValue) → Prop where
  | nil : SameFields maskFields [] []
  | unsetLeft {v : JsValue} {f g : List (Text × JsValue)} (fields : SameFields maskFields f g) :
      SameFields maskFields ((proto, v) :: f) g
  | unsetRight {v : JsValue} {f g : List (Text × JsValue)} (fields : SameFields maskFields f g) :
      SameFields maskFields f ((proto, v) :: g)
  | masked {key : Text} {v w : JsValue} {f g : List (Text × JsValue)}
      (hidden : maskFields key = true) (fields : SameFields maskFields f g) :
      SameFields maskFields ((key, v) :: f) ((key, w) :: g)
  | atom {key : Text} {v : JsValue} {f g : List (Text × JsValue)} (flat : v.isObject = false)
      (fields : SameFields maskFields f g) :
      SameFields maskFields ((key, v) :: f) ((key, v) :: g)
  | nested {key : Text} {v w : JsValue} {f g : List (Text × JsValue)} (left : v.isObject = true)
      (right : w.isObject = true) (value : SameLogged maskFields v w)
      (fields : SameFields maskFields f g) :
      SameFields maskFields ((key, v) :: f) ((key, w) :: g)

end

variable {maskFields : Text → Bool}

theorem sanitize_atom {v : JsValue} (h : v.isObject = false) :
    sanitizePayload maskFields v = .undefined := by
  cases v <;> simp_all [JsValue.isObject, sanitizePayload]

theorem sanitize_isObject (maskFields : Text → Bool) (v : JsValue) :
    (sanitizePayload maskFields v).isObject = v.isObject := by
  cases v <;> rfl

mutual

theorem sanitize_of_same {v w : JsValue} :
    SameLogged maskFields v w → sanitizePayload maskFields v = sanitizePayload maskFields w
  | .atoms left right => by rw [sanitize_atom left, sanitize_atom right]
  | .arrays items => by rw [sanitizePayload, sanitizePayload, sanitizeItems_of_same items]
  | .objects fields => by rw [sanitizePayload, sanitizePayload, sanitizeFields_of_same fields]

theorem sanitizeItems_of_same {l m : List JsValue} :
    SameItems maskFields l m → sanitizeItems maskFields l = sanitizeItems maskFields m
  | .nil => rfl
  | .cons item items => by
    rw [sanitizeItems, sanitizeItems, sanitize_of_same item, sanitizeItems_of_same items]

theorem sanitizeFields_of_same {f g : List (Text × JsValue)} :
    SameFields maskFields f g → sanitizeFields maskFields f = sanitizeFields maskFields g
  | .nil => rfl
  | .unsetLeft fields => by simp [sanitizeFields, sanitizeFields_of_same fields]
  | .unsetRight fields => by simp [sanitizeFields, sanitizeFields_of_same fields]
  | .masked hidden fields => by simp [sanitizeFields, hidden, sanitizeFields_of_same fields]
  | .atom flat fields => by simp [sanitizeFields, flat, sanitizeFields_of_same fields]
  | .nested left right value fields => by
    simp [sanitizeFields, left, right, sanitize_of_same value, sanitizeFields_of_same fields]

end

/-- What is set on a clone under a name that is not masked. -/
def setValue (maskFields : Text → Bool) (v : JsValue) : JsValue :=
  if v.isObject then sanitizePayload maskFields v else v

theorem setValue_isObject (maskFields : Text → Bool) (v : JsValue) :
    (setValue maskFields v).isObject = v.isObject := by
  unfold setValue
  split
  · exact sanitize_isObject maskFields v
  · rfl

theorem sanitizeFields_cons {key : Text} (hkey : key ≠ proto) (v : JsValue)
    (f : List (Text × JsValue)) :
    sanitizeFields maskFields ((key, v) :: f) =
      (key, if maskFields key then redacted else setValue maskFields v) ::
        sanitizeFields maskFields f := by
  simp only [sanitizeFields, if_neg hkey, setValue]
  split
  · rfl
  · split <;> rfl

mutual

theorem same_of_sanitize (v w : JsValue)
    (h : sanitizePayload maskFields v = sanitizePayload maskFields w) :
    SameLogged maskFields v w := by
  have hkind : v.isObject = w.isObject := by
    rw [← sanitize_isObject maskFields v, h, sanitize_isObject]
  cases hv : v.isObject with
  | false => exact .atoms hv (hkind ▸ hv)
  | true =>
    have hw : w.isObject = true := hkind ▸ hv
    match v, w with
    | .array l, .array m =>
      simp only [sanitizePayload, JsValue.array.injEq] at h
      exact .arrays (sameItems_of_sanitize l m h)
    | .object f, .object g =>
      simp only [sanitizePayload, JsValue.object.injEq] at h
      exact .objects (sameFields_of_sanitize f g h)
termination_by sizeOf v + sizeOf w

theorem sameItems_of_sanitize (l m : List JsValue)
    (h : sanitizeItems maskFields l = sanitizeItems maskFields m) : SameItems maskFields l m := by
  match l, m with
  | [], [] => exact .nil
  | v :: l, w :: m =>
    simp only [sanitizeItems, List.cons.injEq] at h
    exact .cons (same_of_sanitize v w h.1) (sameItems_of_sanitize l m h.2)
termination_by sizeOf l + sizeOf m

theorem sameFields_of_sanitize (f g : List (Text × JsValue))
    (h : sanitizeFields maskFields f = sanitizeFields maskFields g) :
    SameFields maskFields f g := by
  match f, g with
  | [], [] => exact .nil
  | (key, v) :: f, [] =>
    by_cases hkey : key = proto
    · subst hkey
      simp only [sanitizeFields, if_true] at h
      exact .unsetLeft (sameFields_of_sanitize f [] h)
    · rw [sanitizeFields_cons hkey] at h
      cases h
  | f, (key, w) :: g =>
    by_cases hkey : key = proto
    · subst hkey
      simp only [sanitizeFields, if_true] at h
      exact .unsetRight (sameFields_of_sanitize f g h)
    · match f with
      | [] =>
        rw [sanitizeFields_cons hkey] at h
        cases h
      | (other, v) :: f =>
        by_cases hother : other = proto
        · subst hother
          rw [sanitizeFields, if_pos rfl] at h
          exact .unsetLeft (sameFields_of_sanitize f ((key, w) :: g) h)
        · rw [sanitizeFields_cons hkey, sanitizeFields_cons hother, List.cons.injEq,
            Prod.mk.injEq] at h
          obtain ⟨⟨rfl, hvalue⟩, hrest⟩ := h
          have hfields := sameFields_of_sanitize f g hrest
          by_cases hmask : maskFields other = true
          · exact .masked hmask hfields
          · rw [if_neg hmask, if_neg hmask] at hvalue
            have hkind : v.isObject = w.isObject := by
              rw [← setValue_isObject maskFields v, hvalue, setValue_isObject]
            cases hv : v.isObject with
            | false =>
              have hw : w.isObject = false := hkind ▸ hv
              simp only [setValue, hv, hw, Bool.false_eq_true, if_false] at hvalue
              subst hvalue
              exact .atom hv hfields
            | true =>
              have hw : w.isObject = true := hkind ▸ hv
              simp only [setValue, hv, hw, if_true] at hvalue
              exact .nested hv hw (same_of_sanitize v w hvalue) hfields
termination_by sizeOf f + sizeOf g

end

/-- Of two requests the same copy of the body is handed on exactly where the bodies differ in
nothing but what stands under a masked name, what an array has besides objects and arrays, and the
fields that a clone does not take on. -/
theorem body_handed_on_iff (options : AuditLogOptions) (request other : HttpRequest) :
    (contextSnapshot options request).body = (contextSnapshot options other).body ↔
      SameLogged (masks options) request.body other.body :=
  ⟨same_of_sanitize _ _, sanitize_of_same⟩

end AuditLog

end ExchangeLedger
