/-!
# Error codes, and the ways a call can end without returning

The functions modelled here return a `gpg_error_t`, zero for success.  The model returns
`Option GpgErr` wherever the C returns an error code, `none` standing for zero, and keeps the
codes the C names.  Codes that only pass through (a transport failure, an I/O error) are
`GpgErr.code n`: the model never looks inside them.

A call can also end without returning at all.  `BUG ()` aborts the process, and undefined
behaviour (a store past the end of an array, a read of a slot never written, a dereference of
freed memory, a signed `int` result out of range) leaves the C with no defined result.  The
model stops the run with a `Fault` there, so that "this never happens" is a statement about
the model's runs, not an assumption.
-/

namespace NeoPG

/-- The `gpg_error_t` codes the modelled code names, and any other code passed through. -/
inductive GpgErr
  | general
  | canceled
  | unsupportedProtocol
  | tooLarge
  | unexpected
  | eof
  /-- `GPG_ERR_NOT_FOUND`, with which a keyring walk ends. -/
  | notFound
  /-- `gpg_error_from_syserror ()` after a failed allocation. -/
  | enomem
  /-- `gpg_error_from_syserror ()` after a failed read, write, close or flush. -/
  | sys
  /-- A code returned by a collaborator and passed on unchanged. -/
  | code (n : Nat)
  deriving DecidableEq, Repr

/-- How a call ends when it does not return. -/
inductive Fault
  /-- `BUG ()`: the process aborts. -/
  | bug
  /-- A store past the element count an array was allocated with. -/
  | storeOutOfBounds
  /-- A read of an array slot that was never written, or past the array's end, or of no array
  at all. -/
  | readUnstored
  /-- A dereference of memory that has been freed. -/
  | useAfterFree
  /-- Signed `int` arithmetic whose result is outside `int`'s range. -/
  | signedOverflow
  deriving DecidableEq, Repr

/-- A `gpg_error_t` of the functions that hash data files, open the output file and send keys:
a code of `GpgErr`, or one of the codes only they name. -/
inductive IoErr
  /-- A code of `GpgErr`. -/
  | gpg (e : GpgErr)
  /-- `GPG_ERR_NO_DATA`. -/
  | noData
  /-- `GPG_ERR_EPERM`, and `gpg_error_from_syserror ()` with `errno` set to `EPERM`. -/
  | eperm
  /-- `GPG_ERR_ENOENT`: `gpg_error_from_syserror ()` with `errno` set to `ENOENT`. -/
  | enoent
  /-- `GPG_ERR_NO_KEYSERVER`. -/
  | noKeyserver
  deriving DecidableEq, Repr

end NeoPG
