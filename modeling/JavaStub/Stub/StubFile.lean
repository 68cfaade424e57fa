import JavaStub.Stub.Banner

/-!
# Stub files

The text of a stub file: a comment that names the program and the year, the package, the
imports, and the class with its method stubs. It ends with a single line end.
-/

namespace JavaStub

/-- What a stub file is made of, each part already a text. -/
structure StubFile where
  package : String
  /-- The modifiers of the class in a row. -/
  modifiers : String
  name : String
  /-- Whole import lines. -/
  imports : List String
  /-- Method stubs without indentation. -/
  stubs : List String
  banner : Banner
  deriving DecidableEq, Repr

namespace StubFile

/-- What stands in front of a method stub. -/
def indent : String := "    "

/-- The lines of the comment at the head of a stub file. -/
def bannerLines (banner : Banner) : List String :=
  ["// Copyright " ++ toString banner.year ++ " The Chromium Authors. All rights reserved.",
   "// Use of this source code is governed by a BSD-style license that can be",
   "// found in the LICENSE file.",
   "//",
   "// This file is autogenerated by",
   "//     " ++ banner.script,
   "// Please do not change its content or use it in actual code (DO NOT SUBMIT)."]

/-- The line that opens the class. -/
def classLine (f : StubFile) : String := f.modifiers ++ " class " ++ f.name ++ " \x7b"

/-- The lines of a stub file. A block without imports or stubs is an empty line. -/
def lines (f : StubFile) : List String :=
  bannerLines f.banner ++
  ["", "package " ++ f.package ++ ";", "",
   "\n".intercalate f.imports, "",
   f.classLine, "\n".intercalate (f.stubs.map (indent ++ ·)), "\x7d"]

/-- The text of a stub file. -/
def render (f : StubFile) : String := String.join (f.lines.map (· ++ "\n"))

end StubFile

end JavaStub
