/-!
# Powers

A power of a natural number or of an integer is the one of the core library in every module,
also next to a library that has powers of its own on monoids. Such a library makes its powers a
default instance of high priority, and this one stands before it.
-/

attribute [instance (high), default_instance 20000] instPowNat
