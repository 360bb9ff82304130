/-! # Categories of guides

Guides are named after what they explain, and filed under the category of the functions that they
explain. A guide whose name is not listed is filed under its own name.
-/

namespace ApiAtlas.Guide

/-- The category that a guide is filed under. -/
def category (guide : String) : String :=
  match guide with
  | "audio" => "audio"
  | "camera" => "draw"
  | "drawing" => "draw"
  | "collision" => "collision"
  | "coroutines" => "coroutine"
  | "input" => "input"
  | "networking" => "net"
  | "strings" => "string"
  | "random_numbers" => "math"
  | "application_window" => "app"
  | "emscripten" => "app"
  | "ios" => "app"
  | "game_loop_and_time" => "time"
  | "file_io" => "file"
  | "virtual_file_system" => "file"
  | "multithreading" => "thread"
  | "atomics" => "atomic"
  | "data_structures" => "array"
  | "allocator" => "alloc"
  | "web" => "https"
  | "dear_imgui" => "imgui"
  | "low_level_graphics" => "graphics"
  | "renderer" => "graphics"
  | "shader_compilation" => "graphics"
  | other => other

end ApiAtlas.Guide
